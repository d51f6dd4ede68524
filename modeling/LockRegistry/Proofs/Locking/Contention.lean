import LockRegistry.Proofs.Locking.Tenure
import LockRegistry.Proofs.Operation.Calls
import LockRegistry.Proofs.Sessions.Progress
import LockRegistry.Regex.Runner
import Mathlib.Data.Finset.Insert

/-! Sessions that ask for one free lock at once. It goes to the first whose offer comes to the
store. -/

namespace LockRegistry

open Locking (newLock heldBy)

variable [Regex.Engine]

def Operation.Offers (o : Operation) (l : NewLock) : Prop :=
  ∃ config r caller lockId, o = .request config r caller lockId ∧ r.revokeExisting = false ∧
    0 ≤ r.revokeTimeoutSecs ∧ l = newLock r lockId

namespace Operation.Offers

variable {o : Operation} {l : NewLock} {x : List Exchange} {v : Except LockError Value}

lemma endsWithin (h : o.Offers l) : o.op.EndsWithin 3 := by
  obtain ⟨config, r, caller, lockId, rfl, plain, timeout, rfl⟩ := h
  have checked : Locking.checkedTimeout r.revokeTimeoutSecs =
      .ok (r.revokeTimeoutSecs.toNat * 1000000000) := if_neg (Int.not_lt.2 timeout)
  simp only [op, Locking.request, checked, Op.check_ok_bind, plain]
  refine Op.endsWithin_call fun inserted => ?_
  cases inserted with
  | some row => exact Op.endsWithin_log (.done rfl)
  | none => exact Op.endsWithin_log (Op.endsWithin_call fun _ => .done rfl)

lemma course (h : o.Offers l) (makes : o.op.Makes x v) :
    (∃ row, x = [⟨.insertLock l, some row⟩] ∧ v = .ok (.outcome (.acquired row.lockId))) ∨
      ∃ holder, x = [⟨.insertLock l, none⟩, ⟨.findLock l.key, holder⟩] ∧
        v = .ok (.outcome (heldBy holder)) := by
  obtain ⟨config, r, caller, lockId, rfl, plain, timeout, rfl⟩ := h
  obtain ⟨a, hm, rfl⟩ := Op.Makes.map makes
  cases Locking.request_makes hm with
  | refused negative =>
    rw [Locking.checkedTimeout, if_neg (Int.not_lt.2 timeout)] at negative
    cases negative
  | acquired row => exact .inl ⟨row, rfl, rfl⟩
  | held _ holder => exact .inr ⟨holder, rfl, rfl⟩
  | revoking revoke => cases plain.symm.trans revoke

end Operation.Offers

lemma Entry.refused {ι : Type} {s : Store} {e : Entry ι} {l : NewLock}
    (h : ⟨.insertLock l, none⟩ = e.exchange s) :
    e.call = .insertLock l ∧ ∃ row, s.locks.find? l.key = some row := by
  obtain ⟨hc, hr⟩ := answered h
  simp only [Store.apply, Store.insertLock, Table.contains_eq_isSome] at hr
  split at hr
  · rename_i held
    exact ⟨hc, Option.isSome_iff_exists.1 held⟩
  · cases hr

namespace Store

variable {ι : Type} {s : Store} {j : List (Entry ι)} {key : LockKey} {row : Lock} {f t m n : Nat}
  {i i' : ι} {a b : String}

lemma still_held (kept : ∀ d, ¬ s.Deletes j d key) (held : s.lockAt j f key = some row)
    (before : f ≤ t) : ∃ row', s.lockAt j t key = some row' ∧ row'.unstamped = row.unstamped := by
  obtain ⟨first, hf, still⟩ := (stays_iff held before).2 fun d _ _ => kept d
  obtain rfl := Option.some.inj (held.symm.trans hf)
  exact still t before le_rfl

lemma Inserts.not_before (kept : ∀ d, ¬ s.Deletes j d key) (hm : s.Inserts j m i key a)
    (hn : s.Inserts j n i' key b) : ¬ m < n := by
  intro before
  obtain ⟨first, held⟩ := hm.lockAt_succ
  obtain ⟨row, still, -⟩ := still_held kept held before
  obtain ⟨_, _, _, _, _, free, -⟩ := hn
  cases still.symm.trans free

lemma Inserts.only (kept : ∀ d, ¬ s.Deletes j d key) (hm : s.Inserts j m i key a)
    (hn : s.Inserts j n i' key b) : m = n ∧ i = i' := by
  have same : m = n := Nat.le_antisymm (Nat.not_lt.1 (hn.not_before kept hm))
    (Nat.not_lt.1 (hm.not_before kept hn))
  subst same
  obtain ⟨now, l, he, -⟩ := hm
  obtain ⟨now', l', he', -⟩ := hn
  cases he.symm.trans he'
  exact ⟨rfl, rfl⟩

end Store

namespace Sessions

variable {ι : Type} [DecidableEq ι] {σ : Sessions ι Value} {h : List (Turn ι)} {key : LockKey}
  {contenders : Finset ι} {lock : ι → NewLock} {i w : ι} {m : Nat}

-- Each has as many turns as it needs, nobody else puts a lock on the key, and nobody takes one off.
structure Contest (σ : Sessions ι Value) (h : List (Turn ι)) (key : LockKey)
    (contenders : Finset ι) (lock : ι → NewLock) : Prop where
  someone : contenders.Nonempty
  free : σ.store.locks.find? key = none
  offers : ∀ i ∈ contenders, (lock i).key = key ∧ ∃ o : Operation, σ.op i = o.op ∧ o.Offers (lock i)
  turns : ∀ i ∈ contenders, 3 ≤ h.countP (·.session = i)
  closed : ∀ m i lockId, σ.store.Inserts (σ.journal h) m i key lockId → i ∈ contenders
  kept : ∀ d, ¬ σ.store.Deletes (σ.journal h) d key

namespace Contest

lemma course (c : Contest σ h key contenders lock) (hi : i ∈ contenders) :
    (∃ m now, (σ.journal h)[m]? = some ⟨i, now, .insertLock (lock i)⟩ ∧
      σ.store.Inserts (σ.journal h) m i key (lock i).lockId ∧
      (σ.run h).result? i = some (.ok (.outcome (.acquired (lock i).lockId)))) ∨
    ∃ n g row, n < g ∧ σ.store.lockAt (σ.journal h) n key = some row ∧
      (exchanges i σ.store (σ.journal h)).countP Exchange.inserts = 0 ∧
      (σ.run h).result? i =
        some (.ok (.outcome (heldBy (σ.store.lockAt (σ.journal h) g key)))) := by
  obtain ⟨rfl, o, own, offers⟩ := c.offers i hi
  obtain ⟨v, hv⟩ := exists_result? (own ▸ offers.endsWithin) (c.turns i hi)
  have makes := makes_of_result? hv
  rw [own] at makes
  rcases offers.course makes with ⟨row, course, rfl⟩ | ⟨holder, course, rfl⟩
  · obtain ⟨m, now, he, free, rfl⟩ := Store.exists_inserted (course ▸ List.mem_singleton_self _)
    exact .inl ⟨m, now, he, .of_free he free, hv⟩
  · obtain ⟨g, e, -, -, found, early⟩ := exchanges_split (l := [_]) course
    obtain ⟨n, e', before, -, -, refused, -⟩ := exchanges_split_take (l := []) early
    obtain ⟨-, row, held⟩ := Entry.refused refused
    obtain ⟨-, rfl⟩ := Entry.found found
    exact .inr ⟨n, g, row, before, held, by rw [course]; rfl, hv⟩

lemma exists_inserts (c : Contest σ h key contenders lock) :
    ∃ w m, w ∈ contenders ∧ ∃ a, σ.store.Inserts (σ.journal h) m w key a := by
  obtain ⟨i, hi⟩ := c.someone
  rcases c.course hi with ⟨m, now, -, inserts, -⟩ | ⟨n, g, row, -, held, -⟩
  · exact ⟨i, m, hi, _, inserts⟩
  · rcases Store.stays_or_inserted held (Nat.zero_le n) with
      ⟨_, begun, -⟩ | ⟨m, w, a, -, -, inserts, -⟩
    · cases c.free.symm.trans begun
    · exact ⟨w, m, c.closed m w a inserts, a, inserts⟩

end Contest

theorem one_winner (c : Contest σ h key contenders lock) :
    ∃ w ∈ contenders, ∃ (m : Nat) (now : Timestamp),
      (σ.journal h)[m]? = some ⟨w, now, .insertLock (lock w)⟩ ∧
      (σ.run h).result? w = some (.ok (.outcome (.acquired (lock w).lockId))) ∧
      (∀ i ∈ contenders, i ≠ w → (σ.run h).result? i =
        some (.ok (.outcome (.lockHeld (lock w).session.sessionUser (some now))))) ∧
      ∃ row, (σ.run h).store.locks.find? key = some row ∧
        row.unstamped = (lock w).toLock now := by
  obtain ⟨w, m, hw, a, inserts⟩ := c.exists_inserts
  rcases c.course hw with ⟨m', now, he, inserts', won⟩ | ⟨n, g, row, -, -, nothing, -⟩
  · obtain ⟨rfl, -⟩ := inserts.only c.kept inserts'
    obtain ⟨time, l, he', -, -, free, next⟩ := inserts'
    cases he.symm.trans he'
    refine ⟨w, hw, m, now, he, won, fun i hi other => ?_, ?_⟩
    · rcases c.course hi with ⟨n, _, -, again, -⟩ | ⟨n, g, row, before, held, -, lost⟩
      · exact absurd (again.only c.kept inserts).2 other
      · have after : m < n := by
          by_contra early
          obtain ⟨row', still, -⟩ := Store.still_held c.kept held (Nat.not_lt.1 early)
          cases free.symm.trans still
        obtain ⟨row', found, same⟩ := Store.still_held c.kept next (after.trans before)
        have session : row'.session = (lock w).session := congrArg Lock.session same
        have time : row'.acquireTime = now := congrArg Lock.acquireTime same
        rw [lost, found, heldBy, Option.bind_some, Option.map_some, session, time]
    · have late : m + 1 ≤ m + 1 + (σ.journal h).length := Nat.le_add_right ..
      obtain ⟨row, found, same⟩ := Store.still_held c.kept next late
      rw [Store.lockAt, Store.instant_of_length_le (Nat.le_add_left ..), ← store_run] at found
      exact ⟨row, found, same⟩
  · exact absurd inserts (Store.not_inserts nothing)

end Sessions

end LockRegistry

namespace LockRegistry.Sessions

open Locking (newLock)

attribute [local instance] Regex.runner

def raceKey : LockKey := ⟨"OSL", "fence", "editor"⟩

def raceLock : Fin 5 → NewLock
  | 0 => ⟨"a", raceKey, { sessionUser := some "ann" }⟩
  | 1 => ⟨"b", raceKey, { sessionUser := some "bo" }⟩
  | 2 => ⟨"c", raceKey, { sessionUser := some "cy" }⟩
  | 3 | 4 => ⟨"d", raceKey, { sessionUser := some "di" }⟩

def race : Fin 5 → Operation
  | 4 => .allow "osl" "*" "*" "*" "kim"
  | i => .request ⟨250, 10⟩ { key := raceKey, session := (raceLock i).session } none
      (raceLock i).lockId

def raceTurns : List (Turn (Fin 5)) :=
  [(4, 10), (1, 20), (0, 30), (2, 40), (3, 45), (1, 50), (0, 60), (2, 70), (3, 75), (4, 80),
    (2, 90), (1, 95), (3, 97), (0, 99)].map fun turn =>
      { session := turn.1, now := .ofNanos turn.2 }

lemma race_offers {i : Fin 5} (hi : i ∈ ({0, 1, 2, 3} : Finset (Fin 5))) :
    (race i).Offers (raceLock i) := by
  simp only [Finset.mem_insert, Finset.mem_singleton] at hi
  rcases hi with rfl | rfl | rfl | rfl <;> exact ⟨_, _, _, _, rfl, rfl, by decide, rfl⟩

lemma race_contest : Contest (start race) raceTurns raceKey {0, 1, 2, 3} raceLock where
  someone := ⟨0, by decide⟩
  free := rfl
  offers i hi := ⟨by revert i; decide, race i, rfl, race_offers hi⟩
  turns := by decide
  closed m i lockId inserts := by
    obtain ⟨now, l, he, -⟩ := inserts
    have may := mayCall_of_getElem? he
    match i with
    | 0 | 1 | 2 | 3 => decide
    | 4 =>
      obtain ⟨_, _, ⟨⟩⟩ := may
  kept d deletes := by
    obtain ⟨e, row, he, -, removes, -⟩ := deletes
    have may := mayCall_of_getElem? he
    have still : ∀ i, (∀ office lockId, race i ≠ .release office lockId) ∧
        ∀ key caller, race i ≠ .revoke key caller := by
      intro i
      match i with
      | 0 | 1 | 2 | 3 | 4 => exact ⟨fun _ _ => nofun, fun _ _ => nofun⟩
    rcases removes with hc | hc
    · obtain ⟨office, lockId, own, -⟩ := (hc ▸ may).release
      exact (still e.session).1 office lockId own
    · obtain ⟨caller, own⟩ := (hc ▸ may).revoke
      exact (still e.session).2 raceKey caller own

theorem one_winner_race : ∃ now : Timestamp,
    ((start race).run raceTurns).result? 1 = some (.ok (.outcome (.acquired "b"))) ∧
      ∀ i : Fin 5, i = 0 ∨ i = 2 ∨ i = 3 → ((start race).run raceTurns).result? i =
        some (.ok (.outcome (.lockHeld (some "bo") (some now)))) := by
  obtain ⟨w, hw, m, now, -, won, lost, -⟩ := one_winner race_contest
  simp only [Finset.mem_insert, Finset.mem_singleton] at hw
  rcases hw with rfl | rfl | rfl | rfl
  · cases won
  · exact ⟨now, won, fun i hi => lost i (by revert i; decide) (by revert i; decide)⟩
  · cases won
  · cases won

end LockRegistry.Sessions
