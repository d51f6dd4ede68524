import LockRegistry.Database.Script
import LockRegistry.Proofs.Database.Sendings
import LockRegistry.Proofs.Operation.Failures
import LockRegistry.Regex.Runner

/-! A statement that fails ends the operation that sent it, with its error. -/

namespace LockRegistry.Database

variable {α : Type} {l : List Sending} {r : Except LockError α}

-- The first statement that fails is the last that is sent, and the operation ends with its error;
-- only then does it end with an error of the database.
structure EndsAtFault (l : List Sending) (r : Except LockError α) : Prop where
  ends : ∀ l₁ x l₂ e, l = l₁ ++ x :: l₂ → x.fault? = some e → l₂ = [] ∧ r = .error (.database e)
  only : ∀ e, r = .error (.database e) → ∃ l₁ x, l = l₁ ++ [x] ∧ x.fault? = some e

lemma endsAtFault_of_fine (fine : ∀ x ∈ l, x.fault? = none) (own : ∀ e, r ≠ .error (.database e)) :
    EndsAtFault l r where
  ends := by
    rintro l₁ x l₂ e rfl fault
    cases (fine x (by simp)).symm.trans fault
  only e failed := absurd failed (own e)

lemma endsAtFault_of_fault {x : Sending} {e : DatabaseError} (fine : ∀ y ∈ l, y.fault? = none)
    (fault : x.fault? = some e) (failed : r = .error (.database e)) : EndsAtFault (l ++ [x]) r where
  ends := by
    rintro l₁ y l₂ e' split fault'
    -- a failing statement before the last would be one of the fine ones
    rcases List.eq_nil_or_concat l₂ with rfl | ⟨l₂, z, rfl⟩
    · obtain ⟨-, same⟩ := List.append_inj' split rfl
      cases same
      cases fault.symm.trans fault'
      exact ⟨rfl, failed⟩
    · have shorter : l ++ [x] = (l₁ ++ y :: l₂) ++ [z] := by simpa using split
      obtain ⟨rfl, -⟩ := List.append_inj' shorter rfl
      cases (fine y (by simp)).symm.trans fault'
  only := by
    rintro e' rfl
    cases failed
    exact ⟨l, x, rfl, fault⟩

variable [Regex.Engine]

lemma endsAtFault_of_sends {o : Operation} {r : Except LockError LockRegistry.Value}
    (h : o.op.Sends l r) : EndsAtFault l r := by
  rcases h.makes_or_failed o.propagates with
    ⟨m, makes, reads⟩ | ⟨l', x, e, rfl, fine, fault, failed⟩
  · refine endsAtFault_of_fine (Sending.fault?_of_reads reads) ?_
    rintro e rfl
    exact (Operation.fails_of_makes makes).not_database e rfl
  · exact endsAtFault_of_fault fine fault failed

/-- Whatever a server answers, no operation goes on after a statement that fails. -/
theorem stops_at_first_fault (o : Operation) :
    (∀ l r, o.op.Sends l r → EndsAtFault l r) ∧
    (∀ {σ : Type} (s : Server σ) (c : Client (σ × List Message)),
      let out := c.perform s.recording o.op
      c.unrecorded.perform s o.op = (out.1, out.2.unrecorded) ∧
        ∃ l : List Sending, out.2.server.2 = c.server.2 ++ l.map Sending.message ∧
          (o.op.Sends l out.1 ∨ out.1 = .error .cancelled) ∧ EndsAtFault l out.1) ∧
    ∀ {σ : Type} (s : Server σ) (c : Client (σ × List Message)) (call : Call),
      let out := c.ask s.recording call
      c.unrecorded.ask s call = (out.1, out.2.unrecorded) ∧
        ∃ answer, out.2.server.2 = c.server.2 ++ [⟨.ofCall call, answer⟩] ∧
          out.1 = answer >>= fun r => r.reply call := by
  refine ⟨fun l r => endsAtFault_of_sends, fun s c => ⟨Client.run_unrecorded s c _ _, ?_⟩,
    fun s c call => ⟨rfl, _, rfl, rfl⟩⟩
  obtain ⟨l, record, sends | ⟨cancelled, fine⟩⟩ :=
    Client.sends_of_run s c Client.stepLimit o.op o.propagates
  · exact ⟨l, record, .inl sends, endsAtFault_of_sends sends⟩
  · refine ⟨l, record, .inr cancelled, endsAtFault_of_fine fine fun e failed => ?_⟩
    cases cancelled.symm.trans failed

end LockRegistry.Database

namespace LockRegistry.Database

attribute [local instance] Regex.runner

def outageRequest : LockRequest := LockRequest.revoking { key := ⟨"OSL", "fence", "editor"⟩ } 60

def outage : Operation := .request ⟨250, 10⟩ outageRequest (some "adm") "b"

def outageScript : Script where
  replies := [.rows none [], .refused "out of memory", .rows none []]

def outageClient : Client (Script × List Message) where
  server := (outageScript, [])
  start := .ofNanos 0

theorem stops_at_first_fault_outage :
    let out := outageClient.perform Script.server.recording outage.op
    out.1 = .error (.database (.refused "out of memory")) ∧ out.2.server.2.length = 2 ∧
      ∃ l x, out.2.server.2 = (l ++ [x]).map Sending.message ∧
        x.fault? = some (.refused "out of memory") := by
  have failed : (outageClient.perform Script.server.recording outage.op).1 =
      .error (.database (.refused "out of memory")) := by rfl
  obtain ⟨-, runs, -⟩ := stops_at_first_fault outage
  obtain ⟨-, l, record, -, stops⟩ := runs Script.server outageClient
  obtain ⟨l, x, rfl, fault⟩ := stops.only _ failed
  exact ⟨failed, by rfl, l, x, record, fault⟩

end LockRegistry.Database
