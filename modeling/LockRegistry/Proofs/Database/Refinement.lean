import LockRegistry.Proofs.Database.Steps
import LockRegistry.Regex.Runner

/-! Whatever a client asks of the tables of a database, it is answered as by a store in memory. -/

namespace LockRegistry

def Call.insertedId? : Call → Option String
  | .insertLock l => some l.lockId
  | _ => none

namespace Database

variable {σ : Type}

abbrev Answer := (c : Call) × Except DatabaseError c.Reply

def Client.asks (s : Server σ) (client : Client σ) : List (Nat × Call) → List Answer × Client σ
  | [] => ([], client)
  | (elapsed, c) :: calls =>
    let (answer, client) := Client.ask s { client with elapsed := elapsed } c
    let (answers, client) := client.asks s calls
    (⟨c, answer⟩ :: answers, client)

def journalOf (start : Timestamp) (calls : List (Nat × Call)) : List (Entry Unit) :=
  calls.map fun call => ⟨(), start.later call.1, call.2⟩

def answerOf (ρ : Int → Int) (x : Exchange) : Answer := ⟨x.call, .ok (x.call.renumber ρ x.reply)⟩

def insertedIds (calls : List (Nat × Call)) : List String :=
  calls.filterMap fun call => call.2.insertedId?

structure Fresh (calls : List (Nat × Call)) : Prop where
  once : (insertedIds calls).Nodup
  valid : ∀ lockId ∈ insertedIds calls, isLockId lockId = true

variable {s : Store} {now : Timestamp} {c : Call} {calls : List (Nat × Call)}

lemma insertedIds_cons (elapsed : Nat) (c : Call) (calls : List (Nat × Call)) :
    insertedIds ((elapsed, c) :: calls) = c.insertedId?.toList ++ insertedIds calls := by
  rw [insertedIds, List.filterMap_cons]
  cases c.insertedId? <;> rfl

lemma Fresh.of_cons {call : Nat × Call} (h : Fresh (call :: calls)) : Fresh calls := by
  obtain ⟨once, valid⟩ := h
  rw [insertedIds_cons] at once valid
  exact ⟨(List.nodup_append.1 once).2.1, fun id mem => valid id (List.mem_append_right _ mem)⟩

variable [Regex.Engine]

lemma renumber_reply {ρ ρ' : Int → Int} (kept : s.Kept)
    (same : ∀ n ≤ (s.apply now c).2.lastGrantId, ρ' n = ρ n) :
    c.renumber ρ' (s.apply now c).1 = c.renumber ρ (s.apply now c).1 := by
  cases c with
  | upsertGrant g =>
    have kept' : (s.apply now (.upsertGrant g)).2.Kept := kept.apply now fun _ call => by cases call
    exact Grant.renumbered_congr
      (same _ (kept'.id_le (Table.mem_values_iff.2 ⟨g.key, s.find?_upsertGrant now g⟩)))
  | grantsOf user =>
    exact List.map_congr_left fun g mem =>
      Grant.renumbered_congr (same _ (kept.id_le (List.mem_filter.1 mem).1))
  | listGrants f =>
    exact List.map_congr_left fun g mem =>
      Grant.renumbered_congr (same _ (kept.id_le (List.mem_filter.1 mem).1))
  | _ => rfl

def Apart (s : Store) (calls : List (Nat × Call)) : Prop :=
  ∀ key row, s.locks.find? key = some row → row.lockId ∉ insertedIds calls

omit [Regex.Engine] in
lemma Fresh.admits {elapsed : Nat} (h : Fresh ((elapsed, c) :: calls))
    (apart : Apart s ((elapsed, c) :: calls)) : Admits s c := by
  rintro l rfl
  exact ⟨h.valid l.lockId List.mem_cons_self, fun key row held same =>
    apart key row held (same ▸ List.mem_cons_self)⟩

lemma Fresh.apart {elapsed : Nat} (h : Fresh ((elapsed, c) :: calls))
    (apart : Apart s ((elapsed, c) :: calls)) (now : Timestamp) :
    Apart (s.apply now c).2 calls := by
  intro key row held
  have step := s.lockStep now key c
  rw [held] at step
  rcases step.lockId with ⟨old, held', same⟩ | ⟨new, rfl, -, same⟩
  · rw [Apart, insertedIds_cons] at apart
    rw [← same]
    exact fun mem => apart key old held' (List.mem_append_right _ mem)
  · rw [← same]
    exact (List.nodup_cons.1 h.once).1

lemma refines_run {ρ : Int → Int} {client : Client Tables} (h : Represents ρ s client.server)
    (kept : s.Kept) (once : s.NamedOnce) (fresh : Fresh calls) (apart : Apart s calls) :
    ∃ ρ', (∀ n ≤ s.lastGrantId, ρ' n = ρ n) ∧
      (client.asks Tables.server calls).1 =
        (exchanges () s (journalOf client.start calls)).map (answerOf ρ') ∧
      Represents ρ' (s.replay (journalOf client.start calls))
        (client.asks Tables.server calls).2.server := by
  induction calls generalizing ρ s client with
  | nil => exact ⟨ρ, fun _ _ => rfl, rfl, h⟩
  | cons call calls ih =>
    obtain ⟨elapsed, c⟩ := call
    have admits := fresh.admits apart
    obtain ⟨ρ', keeps, reply, tables⟩ :=
      h.refines kept once admits (client.start.later elapsed)
    let client' : Client Tables := { client with
      elapsed := elapsed
      server := (client.server.ask (client.start.later elapsed) c).2 }
    obtain ⟨ρ'', keeps', answers, last⟩ := @ih _ _ client' tables (admits.kept kept _)
      (admits.namedOnce once _) fresh.of_cons (fresh.apart apart _)
    refine ⟨ρ'', fun n given => ?_, ?_, last⟩
    · rw [keeps' n (Int.le_trans given (s.lastGrantId_le _ c)), keeps n given]
    · rw [← renumber_reply kept keeps'] at reply
      exact congrArg₂ (fun a rest => ⟨c, a⟩ :: rest) reply answers

/-- Calls are answered alike but for the ids of grants, which are still in the order in which the
grants were made. -/
theorem refinement (start : Timestamp) (calls : List (Nat × Call)) (fresh : Fresh calls) :
    let client : Client Tables := { server := {}, start := start }
    let tables := (client.asks Tables.server calls).2.server
    let store := Store.empty.replay (journalOf start calls)
    ∃ ρ : Int → Int, (∀ m n, m < n → ρ m < ρ n) ∧
      (client.asks Tables.server calls).1 =
        (exchanges () .empty (journalOf start calls)).map (answerOf ρ) ∧
      tables.locks.Perm (store.locks.values.map .ofLock) ∧
      tables.grants.Perm (store.grants.values.map fun g => .ofGrant (g.renumbered ρ)) := by
  intro client tables store
  have h : Represents id Store.empty client.server :=
    ⟨.nil, .nil, fun _ _ before => before, fun n _ => (Int.add_zero n).symm⟩
  have apart : Apart .empty calls := fun _ _ held => by cases held
  obtain ⟨ρ, -, answers, last⟩ := refines_run h Store.kept_empty Store.namedOnce_empty fresh apart
  exact ⟨ρ, last.numbering, answers, last.locks, last.grants⟩

end Database

namespace Database

attribute [local instance] Regex.runner

def rightOf (user : String) : NewGrant := ⟨⟨"OSL", user, "fence", "*"⟩, "*"⟩

def fenceCalls : List (Nat × Call) :=
  [(0, .upsertGrant (rightOf "kim")), (5, .upsertGrant (rightOf "kim")),
    (9, .upsertGrant (rightOf "lee")),
    (12, .insertLock ⟨lockIdOfNat 1, ⟨"OSL", "fence", "editor"⟩, {}⟩),
    (14, .insertLock ⟨lockIdOfNat 2, ⟨"OSL", "fence", "editor"⟩, {}⟩),
    (20, .markRevocation ⟨"OSL", "fence", "editor"⟩ (lockIdOfNat 1) "kim"),
    (21, .listLocks {}), (30, .deleteLockNamed "OSL" (lockIdOfNat 1)), (31, .listGrants {})]

lemma fresh_fenceCalls : Fresh fenceCalls := ⟨by decide, by decide⟩

def Answer.grantId? : Answer → Option Int
  | ⟨.upsertGrant _, .ok g⟩ => some g.id
  | _ => none

-- The second grant has the third number, since the refreshed one has used up the second.
theorem refinement_fence :
    ∃ ρ : Int → Int, (∀ m n, m < n → ρ m < ρ n) ∧ ρ 1 = 1 ∧ ρ 2 = 3 ∧
      (Client.asks Tables.server { server := {}, start := .ofNanos 0 } fenceCalls).1 =
        (exchanges () .empty (journalOf (.ofNanos 0) fenceCalls)).map (answerOf ρ) := by
  obtain ⟨ρ, mono, answers, -⟩ := refinement (.ofNanos 0) fenceCalls fresh_fenceCalls
  have ids : [some 1, some 1, some 3] = [some (ρ 1), some (ρ 1), some (ρ 2)] :=
    congrArg (fun a => (a.take 3).map Answer.grantId?) answers
  simp only [List.cons.injEq, Option.some.injEq] at ids
  exact ⟨ρ, mono, ids.1.symm, ids.2.2.1.symm, answers⟩

end Database

end LockRegistry
