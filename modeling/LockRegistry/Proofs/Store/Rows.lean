import LockRegistry.Store
import Mathlib.Tactic.Lemma

namespace LockRegistry

namespace Table

variable {κ ρ : Type} [Ord κ] [Std.LawfulEqOrd κ]

lemma find?_eq_some_iff {t : Table κ ρ} {k : κ} {r : ρ} :
    t.find? k = some r ↔ (k, r) ∈ t.rows := by
  obtain ⟨rows, ordered⟩ := t
  simp only [find?, Option.map_eq_some_iff]
  constructor
  · rintro ⟨⟨k', r'⟩, h, rfl⟩
    have same := List.find?_some h
    rw [← Std.LawfulEqCmp.eq_of_compare (eq_of_beq same)]
    exact List.mem_of_find?_eq_some h
  · intro h
    induction rows with
    | nil => cases h
    | cons row rows ih =>
      obtain ⟨first, rest⟩ := List.pairwise_cons.1 ordered
      rcases List.mem_cons.1 h with rfl | h
      · exact ⟨(k, r), by simp, rfl⟩
      · have differs : (compare row.1 k == .eq) = false := by rw [first _ h]; rfl
        obtain ⟨row', hf, hr⟩ := ih rest h
        exact ⟨row', by rwa [List.find?_cons_of_neg (by simp [differs])], hr⟩

lemma mem_values_iff {t : Table κ ρ} {r : ρ} : r ∈ t.values ↔ ∃ k, t.find? k = some r := by
  simp [values, find?_eq_some_iff]

lemma find?_filter {t : Table κ ρ} {k : κ} (keep : κ → ρ → Bool) :
    (t.filter keep).find? k = (t.find? k).filter (keep k) := by
  ext r
  rw [find?_eq_some_iff, Option.filter_eq_some_iff, find?_eq_some_iff]
  exact List.mem_filter

@[simp] lemma find?_erase_self (t : Table κ ρ) (k : κ) : (t.erase k).find? k = none := by
  rw [find?_erase, if_pos (Std.ReflCmp.compare_self)]

lemma find?_erase_of_ne (t : Table κ ρ) {k k' : κ} (h : k' ≠ k) :
    (t.erase k).find? k' = t.find? k' := by
  rw [find?_erase, if_neg fun e => h (Std.LawfulEqCmp.eq_of_compare e)]

@[simp] lemma find?_modify_self (t : Table κ ρ) (k : κ) (f : ρ → ρ) :
    (t.modify k f).find? k = (t.find? k).map f := by
  simp [find?_modify, Std.ReflCmp.compare_self]

lemma find?_modify_of_ne (t : Table κ ρ) {k k' : κ} (f : ρ → ρ) (h : k' ≠ k) :
    (t.modify k f).find? k' = t.find? k' := by
  have differs : compare k' k ≠ .eq := fun e => h (Std.LawfulEqCmp.eq_of_compare e)
  simp [find?_modify, differs]

lemma nodup_keys (t : Table κ ρ) : (t.rows.map (·.1)).Nodup := by
  refine List.pairwise_map.2 (t.ordered.imp fun {a b} before same => ?_)
  have self : compare b.1 b.1 = .eq := Std.ReflCmp.compare_self
  rw [same, self] at before
  cases before

variable [Std.TransOrd κ]

@[simp] lemma find?_insert_self (t : Table κ ρ) (k : κ) (r : ρ) :
    (t.insert k r).find? k = some r := by
  rw [find?_insert, if_pos (Std.ReflCmp.compare_self)]

lemma find?_insert_of_ne (t : Table κ ρ) {k k' : κ} (r : ρ) (h : k' ≠ k) :
    (t.insert k r).find? k' = t.find? k' := by
  rw [find?_insert, if_neg fun e => h (Std.LawfulEqCmp.eq_of_compare e).symm]

end Table

def NewGrant.toGrant (g : NewGrant) (id : Int) (now : Timestamp) : Grant where
  id := id
  office := g.key.office
  officeMask := g.officeMask
  user := g.key.user
  projectMask := g.key.projectMask
  applicationMask := g.key.applicationMask
  createdAt := now
  updatedAt := now

namespace Store

variable {s : Store} {now : Timestamp} {key : LockKey} {c : Call}

inductive LockStep (now : Timestamp) (key : LockKey) : Call → Option Lock → Option Lock → Prop
  | kept {c : Call} (row : Option Lock) : LockStep now key c row row
  | inserted (l : NewLock) (own : l.key = key) :
      LockStep now key (.insertLock l) none (some (l.toLock now))
  | stamped (l : Lock) (user : String) :
      LockStep now key (.markRevocation key l.lockId user) (some l) (some (l.stamped user now))
  | revoked (l : Lock) : LockStep now key (.deleteLock key) (some l) none
  | released (l : Lock) (office lockId : String) (named : l.isNamed office lockId = true) :
      LockStep now key (.deleteLockNamed office lockId) (some l) none

lemma find?_of_lockNamed? {office lockId : String} {l : Lock}
    (h : s.lockNamed? office lockId = some (key, l)) :
    s.locks.find? key = some l ∧ l.isNamed office lockId = true :=
  ⟨Table.find?_eq_some_iff.2 (List.mem_of_find?_eq_some h),
    List.find?_some (p := fun row : LockKey × Lock => row.2.isNamed office lockId) h⟩

variable [Regex.Engine]

theorem lockStep (s : Store) (now : Timestamp) (key : LockKey) (c : Call) :
    LockStep now key c (s.locks.find? key) ((s.apply now c).2.locks.find? key) := by
  cases c with
  | insertLock l =>
    simp only [apply, insertLock, Table.contains_eq_isSome]
    split
    · exact .kept _
    · rename_i free
      by_cases own : key = l.key
      · subst own
        rw [Table.find?_insert_self, Option.not_isSome_iff_eq_none.1 free]
        exact .inserted l rfl
      · rw [Table.find?_insert_of_ne _ _ own]
        exact .kept _
  | deleteLockNamed office lockId =>
    simp only [apply, deleteLockNamed]
    split
    · rename_i key' l found
      obtain ⟨held, named⟩ := find?_of_lockNamed? found
      by_cases own : key = key'
      · subst own
        rw [Table.find?_erase_self, held]
        exact .released l office lockId named
      · rw [Table.find?_erase_of_ne _ own]
        exact .kept _
    · exact .kept _
  | markRevocation key' lockId user =>
    simp only [apply, markRevocation]
    split
    · rename_i l held
      split
      · rename_i same
        subst same
        by_cases own : key = key'
        · subst own
          rw [Table.find?_modify_self, held]
          exact .stamped l user
        · rw [Table.find?_modify_of_ne _ _ own]
          exact .kept _
      · exact .kept _
    · exact .kept _
  | deleteLock key' =>
    simp only [apply, deleteLock]
    by_cases own : key = key'
    · subst own
      rw [Table.find?_erase_self]
      cases s.locks.find? key with
      | none => exact .kept _
      | some l => exact .revoked l
    · rw [Table.find?_erase_of_ne _ own]
      exact .kept _
  | upsertGrant g =>
    simp only [apply, upsertGrant]
    split <;> exact .kept _
  | _ => exact .kept _

def Keyed (s : Store) : Prop := ∀ key l, s.locks.find? key = some l → l.isFor key = true

omit [Regex.Engine] in
lemma keyed_empty : empty.Keyed := fun _ _ h => by cases h

lemma Keyed.apply (h : s.Keyed) (now : Timestamp) (c : Call) : (s.apply now c).2.Keyed := by
  intro key l hl
  have step := lockStep s now key c
  rw [hl] at step
  generalize hr : s.locks.find? key = row at step
  cases step with
  | kept => exact h key l hr
  | inserted new own => exact own ▸ new.isFor_toLock now
  | stamped old user => exact h key old hr

omit [Regex.Engine] in
lemma Keyed.countP_le (h : s.Keyed) (key : LockKey) :
    s.locks.values.countP (·.isFor key) ≤ 1 := by
  have own : ∀ row ∈ s.locks.rows, row.2.isFor key = true → (row.1 == key) = true := by
    intro row mem isFor
    have isFor' := h row.1 row.2 (Table.find?_eq_some_iff.2 mem)
    simp only [Lock.isFor, Bool.and_eq_true, beq_iff_eq] at isFor isFor'
    rw [beq_iff_eq]
    exact LockKey.parts_inj (by simp [LockKey.parts, ← isFor.1.1, ← isFor.1.2, ← isFor.2,
      ← isFor'.1.1, ← isFor'.1.2, ← isFor'.2])
  calc s.locks.values.countP (·.isFor key)
      = s.locks.rows.countP ((·.isFor key) ∘ (·.2)) := List.countP_map ..
    _ ≤ s.locks.rows.countP ((· == key) ∘ (·.1)) := List.countP_mono_left own
    _ = (s.locks.rows.map (·.1)).count key := (List.countP_map ..).symm
    _ ≤ 1 := List.nodup_iff_count.1 s.locks.nodup_keys key

inductive GrantStep (now : Timestamp) (last : Int) (key : GrantKey) :
    Call → Option Grant → Option Grant → Prop
  | kept {c : Call} (row : Option Grant) : GrantStep now last key c row row
  | made (g : NewGrant) (own : g.key = key) :
      GrantStep now last key (.upsertGrant g) none (some (g.toGrant (last + 1) now))
  | refreshed (g : NewGrant) (own : g.key = key) (old : Grant) :
      GrantStep now last key (.upsertGrant g) (some old)
        (some { old with officeMask := g.officeMask, updatedAt := now })
  | removed (old : Grant) : GrantStep now last key (.deleteGrant key) (some old) none
  | cleared (old : Grant) (office : String) (officeMask applicationMask : Mask) (user : String)
      (own : isCleared office officeMask applicationMask user old = true) :
      GrantStep now last key (.deleteGrants office officeMask applicationMask user) (some old) none

theorem grantStep (s : Store) (now : Timestamp) (key : GrantKey) (c : Call) :
    GrantStep now s.lastGrantId key c (s.grants.find? key)
      ((s.apply now c).2.grants.find? key) := by
  cases c with
  | insertLock l =>
    simp only [apply, insertLock]
    split <;> exact .kept _
  | deleteLockNamed office lockId =>
    simp only [apply, deleteLockNamed]
    split <;> exact .kept _
  | markRevocation key' lockId user =>
    simp only [apply, markRevocation]
    repeat' split
    all_goals exact .kept _
  | upsertGrant g =>
    simp only [apply, upsertGrant]
    split
    · rename_i old held
      by_cases own : key = g.key
      · subst own
        rw [Table.find?_insert_self, held]
        exact .refreshed g rfl old
      · rw [Table.find?_insert_of_ne _ _ own]
        exact .kept _
    · rename_i free
      by_cases own : key = g.key
      · subst own
        rw [Table.find?_insert_self, free]
        exact .made g rfl
      · rw [Table.find?_insert_of_ne _ _ own]
        exact .kept _
  | deleteGrant key' =>
    simp only [apply, deleteGrant]
    by_cases own : key = key'
    · subst own
      rw [Table.find?_erase_self]
      cases s.grants.find? key with
      | none => exact .kept _
      | some old => exact .removed old
    · rw [Table.find?_erase_of_ne _ own]
      exact .kept _
  | deleteGrants office officeMask applicationMask user =>
    simp only [apply, deleteGrants]
    rw [Table.find?_filter]
    cases s.grants.find? key with
    | none => exact .kept _
    | some old =>
      rw [Option.filter_some]
      split
      · exact .kept _
      · rename_i own
        exact .cleared old office officeMask applicationMask user (by simpa using own)
  | _ => exact .kept _

end Store

end LockRegistry
