import LockRegistry.Proofs.Database.Sendings
import LockRegistry.Proofs.Operation.Failures
import LockRegistry.Proofs.Sessions.Alone
import LockRegistry.Regex.Runner

namespace LockRegistry

open Database (Client Message Record ResultSet Sending Server)

lemma mem_of_mapM {ε α β : Type} {f : α → Except ε β} {l : List α} {bs : List β}
    (h : l.mapM f = .ok bs) {b : β} (hb : b ∈ bs) : ∃ a ∈ l, f a = .ok b := by
  have each := mapM_eq_ok.1 h
  clear h
  induction each with
  | nil => cases hb
  | cons first _ ih =>
    rcases List.mem_cons.1 hb with rfl | hb
    · exact ⟨_, List.mem_cons_self, first⟩
    · obtain ⟨a, mem, ha⟩ := ih hb
      exact ⟨a, List.mem_cons_of_mem _ mem, ha⟩

namespace Operation

variable {o : Operation} {l : List Exchange} {r : Except LockError Value}

def Refusal : Except LockError Value → Prop
  | .error (.argument _) | .error (.revokeDenied _ _) | .ok (.outcome .revokeDenied) => True
  | _ => False

variable [Regex.Engine]

lemma requests_of_outcome {a : AcquireOutcome} (h : o.op.Makes l (.ok (.outcome a))) :
    ∃ config r caller lockId, o = .request config r caller lockId ∧
      Locking.Requests r caller lockId l (.ok a) := by
  cases o with
  | request config r caller lockId =>
    obtain ⟨r', hm, hr⟩ := Op.Makes.map h
    obtain ⟨a', rfl, ⟨⟩⟩ := map_eq_ok.1 hr.symm
    exact ⟨config, r, caller, lockId, rfl, Locking.request_makes hm⟩
  | _ =>
    obtain ⟨r', -, hr⟩ := Op.Makes.map h
    obtain ⟨_, -, ⟨⟩⟩ := map_eq_ok.1 hr.symm

lemma Fails.idle {e : LockError} (h : Fails o l e) (refused : Refusal (.error e)) :
    ∀ x ∈ l, x.acts = false := by
  cases h with
  | refused => exact List.forall_mem_nil _
  | contested => simp [Exchange.acts]
  | unreadable idle =>
    intro x hx
    rcases List.mem_append.1 hx with hx | hx
    · exact idle x hx
    · obtain rfl := List.mem_singleton.1 hx
      rfl
  | denied idle => exact idle
  | cancelled => cases refused

lemma idle_of_refusal (h : o.op.Makes l r) (refused : Refusal r) : ∀ x ∈ l, x.acts = false := by
  match r, refused with
  | .error _, refused => exact (fails_of_makes h).idle refused
  | .ok (.outcome .revokeDenied), _ =>
    obtain ⟨_, _, _, _, -, requests⟩ := requests_of_outcome h
    exact fun _ => requests.idle trivial

lemma instant_of_refusal {ι : Type} [DecidableEq ι] {σ : Sessions ι Value} {h : List (Turn ι)}
    {i : ι} (own : σ.op i = o.op) (ended : (σ.run h).result? i = some r) (refused : Refusal r)
    {n : Nat} {e : Entry ι} (he : (σ.journal h)[n]? = some e) (mine : e.session = i) :
    σ.store.instant (σ.journal h) (n + 1) = σ.store.instant (σ.journal h) n :=
  Sessions.instant_of_idle (idle_of_refusal (own ▸ Sessions.makes_of_result? ended) refused) he mine

def ReadableGrants (l : List Sending) : Prop :=
  ∀ user answer, ⟨.grantsOf user, .ok answer⟩ ∈ l → ∀ row ∈ answer.records, ∀ g,
    row.grant = .ok g → g.Readable

-- Nothing is sent, but for an attempt on a key that finds it held.
def Untouched (o : Operation) (l : List Sending) : Prop :=
  l = [] ∨ ∃ config r caller lockId answer, o = .request config r caller lockId ∧
    l = [⟨.insertLock (Locking.newLock r lockId), .ok answer⟩] ∧ answer.rows = []

section Sent

variable {l : List Sending} {x : Sending}

omit [Regex.Engine] in
lemma rows_of_reads {lock : NewLock} (h : x.Reads ⟨.insertLock lock, none⟩) :
    ∃ answer, x = ⟨.insertLock lock, .ok answer⟩ ∧ answer.rows = [] := by
  obtain ⟨call, answer⟩ := x
  cases h with
  | intro h =>
    obtain ⟨answer, rfl, reply⟩ := bind_eq_ok.1 h
    refine ⟨answer, rfl, ?_⟩
    obtain ⟨columns, rows, affected⟩ := answer
    cases rows with
    | nil => rfl
    | cons row rows =>
      obtain ⟨lock, -, ⟨⟩⟩ := map_eq_ok.1 (show Except.map some _ = _ from reply)

lemma readable_of_reads (readable : ReadableGrants l) {user : String} {grants : List Grant}
    (h : x.Reads ⟨.grantsOf user, grants⟩) (hx : x ∈ l) : ∀ g ∈ grants, g.Readable := by
  obtain ⟨call, answer⟩ := x
  cases h with
  | intro h =>
    obtain ⟨answer, rfl, reply⟩ := bind_eq_ok.1 h
    intro g hg
    obtain ⟨row, mem, read⟩ := mem_of_mapM reply hg
    exact readable user answer hx row mem g read

lemma untouched_of_sends {cause : ArgumentError} (h : o.op.Sends l (.error (.argument cause)))
    (readable : ReadableGrants l) : Untouched o l := by
  rcases h.makes_or_failed o.propagates with ⟨m, makes, reads⟩ | ⟨_, _, _, _, _, _, ⟨⟩⟩
  cases fails_of_makes makes with
  | refused =>
    cases reads
    exact .inl rfl
  | contested =>
    obtain ⟨x, _, first, rest, rfl⟩ := List.forall₂_cons_right_iff.1 reads
    cases rest
    obtain ⟨answer, rfl, empty⟩ := rows_of_reads first
    exact .inr ⟨_, _, _, _, answer, rfl, rfl, empty⟩
  | @unreadable _ _ idle q _ grants _ verdict =>
    -- where all masks compile, the question has an answer
    obtain ⟨x, hx, last⟩ := Sending.exists_reads reads (List.mem_append_right _ List.mem_cons_self)
    have covers : ∀ g ∈ grants, ∃ b, g.covers q.office q.project q.application = .ok b :=
      fun g hg => (readable_of_reads readable last hx g hg).covers
    obtain ⟨found, decided, -⟩ := Authority.firstCovering_total covers
    cases verdict.symm.trans decided

end Sent

/-- A refused operation leaves no trace, whatever other sessions do meanwhile. -/
theorem refusal_leaves_no_trace (o : Operation) :
    (∀ {ι : Type} [DecidableEq ι] (σ : Sessions ι Value) (h : List (Turn ι)) (i : ι) r,
      σ.op i = o.op → (σ.run h).result? i = some r → Refusal r →
        ∀ n e, (σ.journal h)[n]? = some e → e.session = i →
          σ.store.instant (σ.journal h) (n + 1) = σ.store.instant (σ.journal h) n) ∧
    (∀ (s : Store) (ts : List (Turn Unit)) r, (o.op.steps s ts).1.result? = some r → Refusal r →
      (o.op.steps s ts).2 = s) ∧
    (∀ l cause, o.op.Sends l (.error (.argument cause)) → ReadableGrants l → Untouched o l) ∧
    ∀ {σ : Type} (s : Server σ) (c : Client (σ × List Message)),
      let out := c.perform s.recording o.op
      c.unrecorded.perform s o.op = (out.1, out.2.unrecorded) ∧
        ∃ l : List Sending, out.2.server.2 = c.server.2 ++ l.map Sending.message ∧
          (o.op.Sends l out.1 ∨ out.1 = .error .cancelled) ∧
            ∀ cause, out.1 = .error (.argument cause) → ReadableGrants l → Untouched o l := by
  refine ⟨fun σ h i r own ended refused n e => instant_of_refusal own ended refused,
    fun s ts r ended refused => ?_, fun l cause => untouched_of_sends,
    fun s c => ⟨Client.run_unrecorded s c _ _, ?_⟩⟩
  · have alone : ((Sessions.alone o.op s).run ts).result? () = some r := by
      rwa [Sessions.run_alone]
    rw [Sessions.store_alone]
    exact Store.replay_of_idle fun n e he => instant_of_refusal (o := o) rfl alone refused he rfl
  · obtain ⟨l, record, sends | ⟨cancelled, -⟩⟩ := Client.sends_of_run s c Client.stepLimit o.op
        o.propagates
    · exact ⟨l, record, .inl sends, fun cause refused => untouched_of_sends (refused ▸ sends)⟩
    · exact ⟨l, record, .inr cancelled, fun cause refused => nomatch cancelled.symm.trans refused⟩

end Operation

namespace Operation

attribute [local instance] Regex.runner

def patterned : Operation := .request ⟨250, 10⟩ Sessions.standoffRequest (some "a*") "c"

def fenced : Store :=
  (Store.empty.insertLock (.ofNanos 0) ⟨"a", Sessions.standoffKey, {}⟩).2

theorem refusal_leaves_no_trace_patterned :
    let cause := ArgumentError.wildcard "user_id" "a*"
    let turns : List (Turn Unit) := [⟨(), .ofNanos 0, 0, false⟩, ⟨(), .ofNanos 1, 0, false⟩]
    let attempt : Sending := ⟨.insertLock (Locking.newLock Sessions.standoffRequest "c"), .ok {}⟩
    (patterned.op.steps fenced turns).1.result? = some (.error (.argument cause)) ∧
      (patterned.op.steps fenced turns).2 = fenced ∧
      patterned.op.Sends [attempt] (.error (.argument cause)) ∧ Untouched patterned [attempt] := by
  intro cause turns attempt
  obtain ⟨-, still, untouched, -⟩ := refusal_leaves_no_trace patterned
  have ended : (patterned.op.steps fenced turns).1.result? = some (.error (.argument cause)) := rfl
  have sends : patterned.op.Sends [attempt] (.error (.argument cause)) :=
    .answered rfl rfl (.done rfl)
  have readable : ReadableGrants [attempt] := by
    intro user answer mem
    cases congrArg Sending.call (List.mem_singleton.1 mem)
  exact ⟨ended, still _ _ _ ended trivial, sends, untouched _ _ sends readable⟩

end Operation

end LockRegistry
