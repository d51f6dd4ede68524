import LockRegistry.Proofs.Locking.Tenure
import LockRegistry.Proofs.Operation.Calls
import LockRegistry.Regex.Runner

namespace LockRegistry

namespace Locking

variable [Regex.Engine]

lemma isLocked_step {ι : Type} {s : Store} {key : LockKey} {row : Lock}
    (h : s.locks.find? key = some row) (turn : Turn ι) :
    ((isLocked key).step s turn).1 = .done (.ok true) := by
  have held := Table.contains_eq_isSome s.locks key
  rw [h] at held
  exact congrArg (fun b => Op.done (.ok b)) held

end Locking

namespace Sessions

open Locking (newLock)

variable {ι : Type} [DecidableEq ι]

variable [Regex.Engine] {calls : ι → Operation} {h : List (Turn ι)} {i : ι} {key : LockKey}
  {lockId : String}

lemma Returns.inserts (ha : Returns calls h i key (.acquired lockId)) :
    ∃! m, Store.empty.Inserts ((start calls).journal h) m i key lockId := by
  obtain ⟨r, caller, freshId, rfl, requests⟩ := ha.requests
  obtain ⟨once, row, mem, rfl⟩ := requests.inserts
  obtain ⟨n, now, he, free, rfl⟩ := Store.exists_inserted mem
  have inserts : Store.empty.Inserts ((start calls).journal h) n i r.key freshId :=
    .of_free (l := newLock r freshId) he free
  exact ⟨n, inserts, fun m hm => hm.unique once.le inserts⟩

lemma keyed_instant (n : Nat) :
    (Store.empty.instant ((start calls).journal h) n).Keyed :=
  instant_induction Store.keyed_empty (fun _ _ now c _ hs => hs.apply now c) n

/-- Of two locks acquired on one key, the first is deleted before the second is inserted. -/
theorem mutualExclusion (calls : ι → Operation) (h : List (Turn ι)) :
    let j := (start calls).journal h
    (∀ i key a, Returns calls h i key (.acquired a) → ∃! m, Store.empty.Inserts j m i key a) ∧
    (∀ i i' key a b m n, Returns calls h i key (.acquired a) →
      Returns calls h i' key (.acquired b) → Store.empty.Inserts j m i key a →
      Store.empty.Inserts j n i' key b → m < n →
        ∃ d, m < d ∧ d < n ∧ Store.empty.Stays j (m + 1) d key ∧ Store.empty.Deletes j d key) ∧
    (∀ t key, (Store.empty.instant j t).locks.values.countP (·.isFor key) ≤ 1) ∧
    (∀ i key a m t, Returns calls h i key (.acquired a) → Store.empty.Inserts j m i key a →
      m < t → (∀ d, m < d → d < t → ¬ Store.empty.Deletes j d key) →
        ∀ turn : Turn ι, ((Locking.isLocked key).step (Store.empty.instant j t) turn).1 =
          .done (.ok true)) := by
  intro j
  refine ⟨fun i key a ha => ha.inserts, ?_, fun t key => (keyed_instant t).countP_le key, ?_⟩
  · intro i i' key a b m n _ _ hm hn before
    obtain ⟨first, held⟩ := hm.lockAt_succ
    rcases Store.stays_or_deletes held before with stays | deleted
    · obtain ⟨row, still⟩ := stays.held before
      obtain ⟨_, _, _, _, _, free, -⟩ := hn
      cases still.symm.trans free
    · exact deleted
  · intro i key a m t _ hm before undeleted turn
    obtain ⟨first, held⟩ := hm.lockAt_succ
    have stays := (Store.stays_iff held before).2 undeleted
    obtain ⟨row, still⟩ := stays.held before
    exact Locking.isLocked_step still turn

end Sessions

namespace Sessions

open Locking (newLock)

attribute [local instance] Regex.runner

def handoverKey : LockKey := ⟨"OSL", "fence", "editor"⟩

def handover : Nat → Operation
  | 0 => .request ⟨250, 10⟩ { key := handoverKey } none "a"
  | 1 => .release "osl" "a"
  | _ => .request ⟨250, 10⟩ { key := handoverKey } none "b"

def handoverTurns : List (Turn Nat) :=
  [0, 0, 1, 1, 2, 2].map fun i => { session := i, now := .ofNanos 0 }

theorem mutualExclusion_handover :
    ∃ d, 0 < d ∧ d < 2 ∧
      Store.empty.Stays ((start handover).journal handoverTurns) 1 d handoverKey ∧
      Store.empty.Deletes ((start handover).journal handoverTurns) d handoverKey :=
  (mutualExclusion handover handoverTurns).2.1 0 2 handoverKey "a" "b" 0 2
    ⟨_, _, _, _, rfl, rfl, rfl⟩ ⟨_, _, _, _, rfl, rfl, rfl⟩
    ⟨_, _, rfl, rfl, rfl, rfl, rfl⟩ ⟨_, _, rfl, rfl, rfl, rfl, rfl⟩ (by decide)

end Sessions

end LockRegistry
