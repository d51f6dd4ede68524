import LockRegistry.Proofs.Sessions

namespace LockRegistry

variable {ι α : Type} {x : Op α} {l : NewLock} {lockId : String} {ids : List String}

namespace Op

def numbered : Op α → List String → Op α
  | done r, _ => done r
  | log event next, ids => log event (next.numbered ids)
  | call c next, ids =>
    match c, next, ids with
    | .insertLock l, next, lockId :: ids =>
      call (.insertLock { l with lockId := lockId }) fun r => (next r).numbered ids
    | c, next, ids => call c fun r => (next r).numbered ids
  | clock next, ids => clock fun t => (next t).numbered ids
  | wait w next, ids => wait w fun r => (next r).numbered ids

end Op

namespace Action

def numbered : Action (Op α) α → List String → Action (Op α) α
  | done r, _ => done r
  | log event next, ids => log event (next.numbered ids)
  | call (.insertLock l) next, lockId :: ids =>
    call (.insertLock { l with lockId := lockId }) fun r => (next r).numbered ids
  | call c next, ids => call c fun r => (next r).numbered ids
  | clock next, ids => clock fun t => (next t).numbered ids
  | token next, ids => token fun fired => (next fired).numbered ids
  | nap length next, ids => nap length fun fired => (next fired).numbered ids

end Action

namespace Op

lemma action_numbered (x : Op α) (ids : List String) :
    (x.numbered ids).action = x.action.numbered ids := by
  induction x with
  | done | log | clock => rfl
  | call c next => cases c <;> cases ids <;> rfl
  | wait w next ih =>
    obtain ⟨key, timeout, poll, phase, pending⟩ := w
    cases pending with
    | cons => rfl
    | nil =>
      cases phase with
      | «over» r => exact ih r
      | _ => rfl

lemma result?_numbered (x : Op α) (ids : List String) :
    (x.numbered ids).result? = x.result? := by
  rw [result?, action_numbered, result?]
  cases x.action with
  | call c next => cases c <;> cases ids <;> rfl
  | _ => rfl

variable [Regex.Engine] (s : Store) (t : Turn ι)

lemma step_numbered_insertLock {next : Except DatabaseError (Option Lock) → Op α}
    (h : x.action = .call (.insertLock l) next) (lockId : String) (ids : List String) :
    (x.numbered (lockId :: ids)).step s t =
      ((next (.ok (s.insertLock t.now { l with lockId := lockId }).1)).numbered ids,
        (s.insertLock t.now { l with lockId := lockId }).2) := by
  rw [step, action_numbered, h]
  rfl

lemma step_numbered (h : ∀ l next, x.action ≠ .call (.insertLock l) next) (ids : List String) :
    (x.numbered ids).step s t = ((x.step s t).1.numbered ids, (x.step s t).2) := by
  rw [step, action_numbered, step]
  cases action : x.action with
  | call c next =>
    cases c with
    | insertLock l => exact absurd action (h l next)
    | _ => cases ids <;> rfl
  | _ => rfl

end Op

end LockRegistry
