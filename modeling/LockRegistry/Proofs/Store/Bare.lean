import LockRegistry.Proofs.Store.Values

namespace LockRegistry

namespace Table

variable {κ ρ ρ' : Type} [Ord κ]

def map (f : ρ → ρ') (t : Table κ ρ) : Table κ ρ' where
  rows := t.rows.map fun row => (row.1, f row.2)
  ordered := List.pairwise_map.2 t.ordered

lemma values_map (f : ρ → ρ') (t : Table κ ρ) : (t.map f).values = t.values.map f := by
  simp [values, map]

lemma find?_map (f : ρ → ρ') (t : Table κ ρ) (k : κ) : (t.map f).find? k = (t.find? k).map f := by
  simp only [find?, map, List.find?_map, Option.map_map]
  rfl

lemma contains_map (f : ρ → ρ') (t : Table κ ρ) (k : κ) : (t.map f).contains k = t.contains k := by
  rw [contains_eq_isSome, contains_eq_isSome, find?_map, Option.isSome_map]

variable [Std.TransOrd κ] [Std.LawfulEqOrd κ]

lemma insert_map (f : ρ → ρ') (t : Table κ ρ) (k : κ) (r : ρ) :
    (t.map f).insert k (f r) = (t.insert k r).map f := by
  refine ext_find? fun k' => ?_
  rw [find?_map, find?_insert, find?_insert, find?_map]
  split <;> rfl

lemma erase_map (f : ρ → ρ') (t : Table κ ρ) (k : κ) : (t.map f).erase k = (t.erase k).map f := by
  refine ext_find? fun k' => ?_
  rw [find?_map, find?_erase, find?_erase, find?_map]
  split <;> rfl

lemma modify_map (f : ρ → ρ') (t : Table κ ρ) (k : κ) (g : ρ → ρ) (g' : ρ' → ρ')
    (same : ∀ r, g' (f r) = f (g r)) : (t.map f).modify k g' = (t.modify k g).map f := by
  refine ext_find? fun k' => ?_
  rw [find?_map, find?_modify, find?_modify, find?_map, Option.map_map, Option.map_map]
  congr 1
  funext r
  simp only [Function.comp]
  split <;> simp [same]

end Table

def Lock.bare (l : Lock) : Lock := { l with session := {} }

def NewLock.bare (l : NewLock) : NewLock := { l with session := {} }

namespace Call

def bare : Call → Call
  | insertLock l => insertLock l.bare
  | c => c

def bareReply : (c : Call) → c.Reply → c.bare.Reply
  | insertLock _, a | deleteLock _, a | findLock _, a | findLockNamed _ _, a => a.map Lock.bare
  | listLocks _, a => a.map Lock.bare
  | deleteLockNamed _ _, a | markRevocation _ _ _, a | lockExists _, a | upsertGrant _, a
  | deleteGrant _, a | deleteGrants _ _ _ _, a | grantsOf _, a | listGrants _, a => a

end Call

namespace Store

def bare (s : Store) : Store := { s with locks := s.locks.map Lock.bare }

lemma lockNamed?_bare (s : Store) (office lockId : String) :
    s.bare.lockNamed? office lockId =
      (s.lockNamed? office lockId).map fun row => (row.1, row.2.bare) :=
  List.find?_map ..

lemma insertLock_bare (s : Store) (now : Timestamp) (l : NewLock) :
    s.bare.insertLock now l.bare =
      ((s.insertLock now l).1.map Lock.bare, (s.insertLock now l).2.bare) := by
  have held : s.bare.locks.contains l.bare.key = s.locks.contains l.key := Table.contains_map ..
  unfold insertLock
  rw [held]
  split
  · rfl
  · simp only [bare, ← Table.insert_map]
    rfl

lemma deleteLockNamed_bare (s : Store) (office lockId : String) :
    s.bare.deleteLockNamed office lockId =
      ((s.deleteLockNamed office lockId).1, (s.deleteLockNamed office lockId).2.bare) := by
  unfold deleteLockNamed
  rw [lockNamed?_bare]
  cases s.lockNamed? office lockId with
  | none => rfl
  | some row => simp only [Option.map_some, bare, Table.erase_map]

lemma markRevocation_bare (s : Store) (now : Timestamp) (key : LockKey) (lockId user : String) :
    s.bare.markRevocation now key lockId user =
      ((s.markRevocation now key lockId user).1,
        (s.markRevocation now key lockId user).2.bare) := by
  have found : s.bare.locks.find? key = (s.locks.find? key).map Lock.bare := Table.find?_map ..
  unfold markRevocation
  rw [found]
  cases s.locks.find? key with
  | none => rfl
  | some l =>
    have same : l.bare.lockId = l.lockId := rfl
    simp only [Option.map_some, same]
    split
    · simp only [bare, Table.modify_map Lock.bare s.locks key (·.stamped user now)
        (·.stamped user now) fun _ => rfl]
    · rfl

lemma upsertGrant_bare (s : Store) (now : Timestamp) (g : NewGrant) :
    s.bare.upsertGrant now g = ((s.upsertGrant now g).1, (s.upsertGrant now g).2.bare) := by
  have found : s.bare.grants = s.grants := rfl
  unfold upsertGrant
  rw [found]
  split <;> rfl

variable [Regex.Engine]

lemma listLocks_bare (s : Store) (f : CatalogFilter) :
    s.bare.listLocks f = (s.listLocks f).map Lock.bare := by
  rw [listLocks, listLocks, bare, Table.values_map, List.filter_map]
  rfl

theorem apply_bare (s : Store) (now : Timestamp) (c : Call) :
    s.bare.apply now c.bare = (c.bareReply (s.apply now c).1, (s.apply now c).2.bare) := by
  cases c with
  | insertLock l => exact insertLock_bare s now l
  | deleteLockNamed office lockId => exact deleteLockNamed_bare s office lockId
  | markRevocation key lockId user => exact markRevocation_bare s now key lockId user
  | deleteLock key =>
    refine Prod.ext (Table.find?_map ..) ?_
    simp only [apply, Call.bare, deleteLock, bare, Table.erase_map]
  | findLock key => exact Prod.ext (Table.find?_map ..) rfl
  | findLockNamed office lockId =>
    refine Prod.ext ?_ rfl
    simp only [apply, Call.bare, Call.bareReply, lockNamed?_bare, Option.map_map]
    rfl
  | lockExists key => exact Prod.ext (Table.contains_map ..) rfl
  | listLocks f => exact Prod.ext (listLocks_bare s f) rfl
  | upsertGrant g => exact upsertGrant_bare s now g
  | deleteGrant | deleteGrants | grantsOf | listGrants => rfl

end Store

end LockRegistry
