import LockRegistry.Locking
import LockRegistry.Proofs.Authority.Courses

/-! The courses that operations on locks may take. Other sessions may come in between any two calls,
so nothing ties an answer to those before it. -/

namespace LockRegistry

def Exchange.inserts : Exchange → Bool
  | ⟨.insertLock _, some _⟩ => true
  | _ => false

namespace Locking

variable {config : LockConfig} {lock : NewLock} {key : LockKey} {caller : Option String}
  {user : String} {timeout : Nat} {l : List Exchange}

def heldBy (holder : Option Lock) : AcquireOutcome :=
  .lockHeld (holder.bind (·.session.sessionUser)) (holder.map (·.acquireTime))

inductive Stamps (key : LockKey) (user : String) : List Exchange → Prop
  | free : Stamps key user [⟨.findLock key, none⟩]
  | found (holder : Lock) (stamped : Bool) :
      Stamps key user [⟨.findLock key, some holder⟩,
        ⟨.markRevocation key holder.lockId user, stamped⟩]

inductive Retries (lock : NewLock) : List Exchange → AcquireOutcome → Prop
  | acquired (row : Lock) : Retries lock [⟨.insertLock lock, some row⟩] (.acquired row.lockId)
  | lost (holder : Option Lock) :
      Retries lock [⟨.insertLock lock, none⟩, ⟨.findLock lock.key, holder⟩] (heldBy holder)

inductive Awaits (lock : NewLock) : List Exchange → Except LockError AcquireOutcome → Prop
  | cancelled (n : Nat) : Awaits lock (looks lock.key n) (.error .cancelled)
  | timedOut (n waitedMs : Nat) :
      Awaits lock (looks lock.key n ++ [⟨.lockExists lock.key, true⟩])
        (.ok (.revokeTimedOut waitedMs))
  | released (n : Nat) {l : List Exchange} {o : AcquireOutcome} (h : Retries lock l o) :
      Awaits lock (looks lock.key n ++ ⟨.lockExists lock.key, false⟩ :: l) (.ok o)

lemma reportHolder_makes {r : Except LockError AcquireOutcome} (h : (reportHolder key).Makes l r) :
    ∃ holder, l = [⟨.findLock key, holder⟩] ∧ r = .ok (heldBy holder) := by
  obtain ⟨holder, l, rfl, hl⟩ := Op.makes_ask_bind.1 h
  obtain ⟨rfl, rfl⟩ := Op.makes_pure.1 hl
  exact ⟨holder, rfl, rfl⟩

lemma stamp_makes {r : Except LockError Unit} (h : (stamp key user timeout).Makes l r) :
    Stamps key user l ∧ r = .ok () := by
  obtain ⟨holder, l, rfl, hl⟩ := Op.makes_ask_bind.1 h
  cases holder with
  | none =>
    obtain ⟨rfl, rfl⟩ := Op.makes_pure.1 hl
    exact ⟨.free, rfl⟩
  | some holder =>
    obtain ⟨stamped, l, rfl, he⟩ := Op.makes_ask_bind.1 hl
    obtain ⟨rfl, rfl⟩ := Op.makes_emit.1 he
    exact ⟨.found holder stamped, rfl⟩

lemma retry_makes {waitedMs : Nat} {r : Except LockError AcquireOutcome}
    (h : (retry lock waitedMs).Makes l r) : ∃ o, Retries lock l o ∧ r = .ok o := by
  obtain ⟨inserted, l, rfl, hl⟩ := Op.makes_ask_bind.1 h
  cases inserted with
  | some row =>
    simp only [Op.makes_emit_bind, Op.makes_pure] at hl
    obtain ⟨rfl, rfl⟩ := hl
    exact ⟨_, .acquired row, rfl⟩
  | none =>
    simp only [Op.makes_emit_bind] at hl
    obtain ⟨holder, rfl, rfl⟩ := reportHolder_makes hl
    exact ⟨_, .lost holder, rfl⟩

lemma awaitHolder_makes {r : Except LockError AcquireOutcome}
    (h : (awaitHolder config lock timeout).Makes l r) : Awaits lock l r := by
  obtain ⟨started, h⟩ := Op.makes_now_bind.1 h
  rcases Op.Makes.await h with ⟨n, rfl, rfl⟩ | ⟨n, l, rfl, hl⟩ | ⟨n, l, rfl, hl⟩
  · exact .cancelled n
  · obtain ⟨ended, hl⟩ := Op.makes_now_bind.1 hl
    simp only [Op.makes_emit_bind, Op.makes_pure] at hl
    obtain ⟨rfl, rfl⟩ := hl
    exact .timedOut n _
  · obtain ⟨ended, hl⟩ := Op.makes_now_bind.1 hl
    obtain ⟨o, ho, rfl⟩ := retry_makes hl
    exact .released n ho

lemma countP_looks (key : LockKey) (n : Nat) : (looks key n).countP Exchange.inserts = 0 :=
  List.countP_eq_zero.2 fun x hx => by
    rw [List.eq_of_mem_replicate hx]
    exact Bool.false_ne_true

lemma Stamps.countP (h : Stamps key user l) : l.countP Exchange.inserts = 0 := by
  cases h <;> rfl

lemma Retries.inserts (h : Retries lock l (.acquired a)) :
    l.countP Exchange.inserts = 1 ∧ ∃ row, ⟨.insertLock lock, some row⟩ ∈ l ∧ row.lockId = a := by
  cases h with
  | acquired row => exact ⟨rfl, row, List.mem_singleton_self _, rfl⟩

lemma Awaits.not_inserts {o : Except LockError AcquireOutcome} (h : Awaits lock l o)
    (lost : ∀ a, o ≠ .ok (.acquired a)) :
    l.countP Exchange.inserts = 0 := by
  cases h with
  | cancelled n => exact countP_looks lock.key n
  | timedOut n =>
    have last : Exchange.inserts ⟨.lockExists lock.key, true⟩ = false := rfl
    simp [countP_looks, last]
  | released n again =>
    cases again with
    | acquired row => exact absurd rfl (lost row.lockId)
    | lost holder =>
      have nothing : List.countP Exchange.inserts [⟨.lockExists lock.key, false⟩,
          ⟨.insertLock lock, none⟩, ⟨.findLock lock.key, holder⟩] = 0 := rfl
      simp [countP_looks, nothing]

variable [Regex.Engine]

abbrev Asks (key : LockKey) (caller : Option String) :
    List Exchange → Except LockError Bool → Prop :=
  Authority.Asks key.office caller key.project key.application

inductive RevokesHolder (lock : NewLock) (caller : Option String) :
    List Exchange → Except LockError AcquireOutcome → Prop
  | failed {l : List Exchange} {e : LockError} (h : Asks lock.key caller l (.error e)) :
      RevokesHolder lock caller l (.error e)
  | denied {l : List Exchange} (h : Asks lock.key caller l (.ok false)) :
      RevokesHolder lock caller l (.ok .revokeDenied)
  | unnamed {l : List Exchange} {e : ArgumentError} (h : Asks lock.key caller l (.ok true))
      (name : Field.user.normalize (caller.getD "") = .error e) :
      RevokesHolder lock caller l (.error (.argument e))
  | allowed {l l' l'' : List Exchange} {user : String} {r : Except LockError AcquireOutcome}
      (h : Asks lock.key caller l (.ok true))
      (name : Field.user.normalize (caller.getD "") = .ok user) (stamp : Stamps lock.key user l')
      (wait : Awaits lock l'' r) : RevokesHolder lock caller (l ++ l' ++ l'') r

abbrev newLock (r : LockRequest) (lockId : String) : NewLock := ⟨lockId, r.key, r.session⟩

inductive Requests (r : LockRequest) (caller : Option String) (lockId : String) :
    List Exchange → Except LockError AcquireOutcome → Prop
  | refused {e : ArgumentError} (h : checkedTimeout r.revokeTimeoutSecs = .error e) :
      Requests r caller lockId [] (.error (.argument e))
  | acquired (row : Lock) :
      Requests r caller lockId [⟨.insertLock (newLock r lockId), some row⟩]
        (.ok (.acquired row.lockId))
  | held (plain : r.revokeExisting = false) (holder : Option Lock) :
      Requests r caller lockId [⟨.insertLock (newLock r lockId), none⟩, ⟨.findLock r.key, holder⟩]
        (.ok (heldBy holder))
  | revoking (revoke : r.revokeExisting = true) {l : List Exchange}
      {o : Except LockError AcquireOutcome} (h : RevokesHolder (newLock r lockId) caller l o) :
      Requests r caller lockId (⟨.insertLock (newLock r lockId), none⟩ :: l) o

inductive Releases (office lockId : String) : List Exchange → Except LockError Bool → Prop
  | refused {e : ArgumentError} : Releases office lockId [] (.error (.argument e))
  | asked {o : String} (normal : Field.office.normalize office = .ok o) (released : Bool) :
      Releases office lockId [⟨.deleteLockNamed o (Text.trim lockId), released⟩] (.ok released)

inductive Revokes (key : LockKey) (caller : Option String) :
    List Exchange → Except LockError Bool → Prop
  | failed {l : List Exchange} {e : LockError} (h : Asks key caller l (.error e)) :
      Revokes key caller l (.error e)
  | denied {l : List Exchange} (h : Asks key caller l (.ok false)) :
      Revokes key caller l (.error (denied caller key))
  | allowed {l : List Exchange} (h : Asks key caller l (.ok true)) (removed : Option Lock) :
      Revokes key caller (l ++ [⟨.deleteLock key, removed⟩]) (.ok removed.isSome)

lemma revokeHolder_makes {r : Except LockError AcquireOutcome}
    (h : (revokeHolder config lock caller timeout).Makes l r) : RevokesHolder lock caller l r := by
  rcases Op.Makes.bind h with ⟨allowed, l₁, l₂, rfl, ha, hl⟩ | ⟨e, rfl, ha⟩
  · have asks := Authority.asks_of_makes ha
    cases allowed with
    | true =>
      rw [if_pos rfl] at hl
      rcases Op.makes_check_bind.1 hl with ⟨user, hu, hl⟩ | ⟨e, hu, rfl, rfl⟩
      · rcases Op.Makes.bind hl with ⟨_, l₃, l₄, rfl, hs, hw⟩ | ⟨e, rfl, hs⟩
        · rw [← List.append_assoc]
          exact .allowed asks hu (stamp_makes hs).1 (awaitHolder_makes hw)
        · cases (stamp_makes hs).2
      · rw [List.append_nil]
        exact .unnamed asks hu
    | false =>
      simp only [Bool.false_eq_true, if_false, Op.makes_emit_bind, Op.makes_pure] at hl
      obtain ⟨rfl, rfl⟩ := hl
      rw [List.append_nil]
      exact .denied asks
  · exact .failed (Authority.asks_of_makes ha)

lemma request_makes {r : LockRequest} {lockId : String} {o : Except LockError AcquireOutcome}
    (h : (request config r caller lockId).Makes l o) : Requests r caller lockId l o := by
  rcases Op.makes_check_bind.1 h with ⟨timeout, ht, hl⟩ | ⟨e, ht, rfl, rfl⟩
  · obtain ⟨inserted, l, rfl, hm⟩ := Op.makes_ask_bind.1 hl
    cases inserted with
    | some row =>
      simp only [Op.makes_emit_bind, Op.makes_pure] at hm
      obtain ⟨rfl, rfl⟩ := hm
      exact .acquired row
    | none =>
      cases revoke : r.revokeExisting with
      | true =>
        simp only [revoke, if_true] at hm
        exact .revoking revoke (revokeHolder_makes hm)
      | false =>
        simp only [revoke, Bool.false_eq_true, if_false, Op.makes_emit_bind] at hm
        obtain ⟨holder, rfl, rfl⟩ := reportHolder_makes hm
        exact .held revoke holder
  · exact .refused ht

omit [Regex.Engine] in
lemma release_makes {office lockId : String} {r : Except LockError Bool}
    (h : (release office lockId).Makes l r) : Releases office lockId l r := by
  rcases Op.makes_check_bind.1 h with ⟨o, ho, hl⟩ | ⟨e, ho, rfl, rfl⟩
  · dsimp only at hl
    split at hl
    · obtain ⟨rfl, rfl⟩ := Op.makes_fail.1 hl
      exact .refused
    · obtain ⟨released, l, rfl, hm⟩ := Op.makes_ask_bind.1 hl
      have ends : l = [] ∧ r = .ok released := by
        split at hm <;> rwa [Op.makes_emit_bind, Op.makes_pure] at hm
      obtain ⟨rfl, rfl⟩ := ends
      exact .asked ho released
  · exact .refused

lemma revoke_makes {r : Except LockError Bool} (h : (revoke key caller).Makes l r) :
    Revokes key caller l r := by
  rcases Op.Makes.bind h with ⟨allowed, l₁, l₂, rfl, ha, hl⟩ | ⟨e, rfl, ha⟩
  · have asks := Authority.asks_of_makes ha
    cases allowed with
    | true =>
      rw [if_pos rfl] at hl
      obtain ⟨removed, l, rfl, hm⟩ := Op.makes_ask_bind.1 hl
      have ends : l = [] ∧ r = .ok removed.isSome := by
        cases removed <;> exact Op.makes_pure.1 (Op.makes_emit_bind.1 hm)
      obtain ⟨rfl, rfl⟩ := ends
      exact .allowed asks removed
    | false =>
      simp only [Bool.false_eq_true, if_false, Op.makes_emit_bind, Op.makes_fail] at hl
      obtain ⟨rfl, rfl⟩ := hl
      rw [List.append_nil]
      exact .denied asks
  · exact .failed (Authority.asks_of_makes ha)

section Inserts

variable {r : LockRequest} {lockId a : String}

lemma Asks.countP {o : Except LockError Bool} (h : Asks key caller l o) :
    l.countP Exchange.inserts = 0 := by
  cases h <;> rfl

lemma Requests.inserts (h : Requests r caller lockId l (.ok (.acquired a))) :
    l.countP Exchange.inserts = 1 ∧
      ∃ row, ⟨.insertLock (newLock r lockId), some row⟩ ∈ l ∧ row.lockId = a := by
  cases h with
  | acquired row => exact ⟨rfl, row, List.mem_singleton_self _, rfl⟩
  | revoking revoke h =>
    cases h with
    | @allowed asks stamps waits user _ ha name stamp wait =>
      cases wait with
      | released n again =>
        obtain ⟨once, row, mem, same⟩ := again.inserts
        refine ⟨?_, row, by simp [mem], same⟩
        have first : Exchange.inserts ⟨.insertLock (newLock r lockId), none⟩ = false := rfl
        have last : Exchange.inserts ⟨.lockExists (newLock r lockId).key, false⟩ = false := rfl
        simp [ha.countP, stamp.countP, countP_looks, first, last, once]

lemma Requests.not_inserts {o : Except LockError AcquireOutcome}
    (h : Requests r caller lockId l o) (lost : ∀ a, o ≠ .ok (.acquired a)) :
    l.countP Exchange.inserts = 0 := by
  cases h with
  | refused => rfl
  | acquired row => exact absurd rfl (lost row.lockId)
  | held => rfl
  | revoking revoke h =>
    have first : Exchange.inserts ⟨.insertLock (newLock r lockId), none⟩ = false := rfl
    cases h with
    | failed ha | denied ha | unnamed ha _ => simp [ha.countP, first]
    | allowed ha name stamp wait =>
      simp [ha.countP, stamp.countP, wait.not_inserts lost, first]

lemma Requests.timesOut {waitedMs : Nat}
    (h : Requests r caller lockId l (.ok (.revokeTimedOut waitedMs))) :
    ∃ l₁ l₂ holder, l = (l₁ ++ ⟨.findLock r.key, holder⟩ :: l₂) ++ [⟨.lockExists r.key, true⟩] ∧
      l.countP Exchange.inserts = 0 ∧ ∀ lock, holder = some lock →
        ∃ user stamped l₃, l₂ = ⟨.markRevocation r.key lock.lockId user, stamped⟩ :: l₃ := by
  have nothing := h.not_inserts fun _ => nofun
  cases h with
  | revoking revoke h =>
    cases h with
    | @allowed asks stamps waits user _ ha name stamp wait =>
      cases wait with
      | released n again => cases again
      | timedOut n =>
        refine ⟨⟨.insertLock (newLock r lockId), none⟩ :: asks, ?_⟩
        cases stamp with
        | free => exact ⟨looks r.key n, none, by simp, nothing, fun _ h => nomatch h⟩
        | found holder stamped =>
          refine ⟨⟨.markRevocation r.key holder.lockId user, stamped⟩ :: looks r.key n, some holder,
            by simp, nothing, ?_⟩
          rintro _ ⟨⟩
          exact ⟨user, stamped, looks r.key n, rfl⟩

end Inserts

end Locking

end LockRegistry
