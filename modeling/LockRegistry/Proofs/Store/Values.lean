import LockRegistry.Proofs.Store.Kept

namespace LockRegistry

lemma filter_eq_toList_find? {α : Type} {l : List α} {p : α → Bool} (distinct : l.Nodup)
    (once : ∀ a ∈ l, ∀ b ∈ l, p a = true → p b = true → a = b) :
    l.filter p = (l.find? p).toList := by
  rw [← List.head?_filter]
  match h : l.filter p with
  | [] => rfl
  | [a] => rfl
  | a :: b :: rest =>
    have two : (a :: b :: rest).Nodup := h ▸ distinct.filter p
    have mem (x : α) (hx : x ∈ a :: b :: rest) : x ∈ l ∧ p x = true := List.mem_filter.1 (h ▸ hx)
    obtain ⟨memA, holdsA⟩ := mem a (by simp)
    obtain ⟨memB, holdsB⟩ := mem b (by simp)
    exact absurd (once a memA b memB holdsA holdsB) fun same => by simp [same] at two

lemma map_ite_of_filter_eq_nil {α : Type} {l : List α} {p : α → Bool} {f : α → α}
    (h : l.filter p = []) : l.map (fun a => if p a then f a else a) = l :=
  (List.map_congr_left fun a mem => if_neg (List.filter_eq_nil_iff.1 h a mem)).trans (List.map_id _)

namespace Table

variable {κ ρ : Type} [Ord κ] {t t' : Table κ ρ} {k : κ} {r : ρ}

lemma values_filter (t : Table κ ρ) (p : ρ → Bool) :
    (t.filter fun _ r => p r).values = t.values.filter p := List.filter_map.symm

lemma length_values (t : Table κ ρ) : t.values.length = t.size := List.length_map ..

lemma find?_eq_none_of_contains (free : t.contains k = false) : t.find? k = none := by
  rwa [contains_eq_isSome, Option.isSome_eq_false_iff, Option.isNone_iff_eq_none] at free

variable [Std.LawfulEqOrd κ]

lemma compare_eq_iff {a b : κ} : compare a b = .eq ↔ a = b :=
  ⟨Std.LawfulEqCmp.eq_of_compare, fun same => same ▸ Std.ReflCmp.compare_self⟩

variable {own : ρ → κ}

def KeyedBy (t : Table κ ρ) (own : ρ → κ) : Prop := ∀ k r, t.find? k = some r → own r = k

lemma KeyedBy.own_eq (h : t.KeyedBy own) {row : κ × ρ} (mem : row ∈ t.rows) : own row.2 = row.1 :=
  h row.1 row.2 (find?_eq_some_iff.2 mem)

lemma KeyedBy.values_ordered (h : t.KeyedBy own) :
    t.values.Pairwise fun a b => compare (own a) (own b) = .lt :=
  List.pairwise_map.2 (t.ordered.imp_of_mem fun memA memB before => by
    rwa [h.own_eq memA, h.own_eq memB])

lemma KeyedBy.values_nodup (h : t.KeyedBy own) : t.values.Nodup :=
  h.values_ordered.imp fun {a b} before same => by
    rw [same] at before
    cases before.symm.trans (compare_eq_iff.2 rfl)

lemma KeyedBy.find?_own (h : t.KeyedBy own) (mem : r ∈ t.values) : t.find? (own r) = some r := by
  obtain ⟨k, held⟩ := mem_values_iff.1 mem
  rwa [h k r held]

lemma KeyedBy.own_inj (h : t.KeyedBy own) {a b : ρ} (memA : a ∈ t.values) (memB : b ∈ t.values)
    (same : own a = own b) : a = b :=
  Option.some.inj ((h.find?_own memA).symm.trans (same ▸ h.find?_own memB))

lemma rows_nodup (t : Table κ ρ) : t.rows.Nodup :=
  (List.pairwise_map.1 t.nodup_keys).imp fun differ same => differ (congrArg _ same)

lemma insertRow_perm {rows : List (κ × ρ)} (free : ∀ row ∈ rows, row.1 ≠ k) :
    (insertRow k r rows).Perm ((k, r) :: rows) := by
  induction rows with
  | nil => exact .refl _
  | cons row rows ih =>
    obtain ⟨first, rest⟩ := List.forall_mem_cons.1 free
    simp only [insertRow]
    split
    · exact .refl _
    · rename_i same
      exact absurd (compare_eq_iff.1 same).symm first
    · exact ((ih rest).cons row).trans (.swap ..)

section Transitive

variable [Std.TransOrd κ]

lemma ext_find? (h : ∀ k, t.find? k = t'.find? k) : t = t' := by
  have same : t.rows.Perm t'.rows := (List.perm_ext_iff_of_nodup t.rows_nodup t'.rows_nodup).2
    fun row => by rw [← find?_eq_some_iff, ← find?_eq_some_iff, h]
  obtain ⟨rows, ordered⟩ := t
  obtain ⟨rows', ordered'⟩ := t'
  obtain rfl : rows = rows' := same.eq_of_pairwise (fun a b _ _ before after => by
    cases before.symm.trans (Std.OrientedCmp.gt_iff_lt.2 after)) ordered ordered'
  rfl

lemma insert_eq_modify (held : t.find? k = some r) (r' : ρ) :
    t.insert k r' = t.modify k fun _ => r' := by
  refine ext_find? fun k' => ?_
  by_cases same : k' = k
  · rw [same, find?_insert_self, find?_modify_self, held, Option.map_some]
  · rw [find?_insert_of_ne _ _ same, find?_modify_of_ne _ _ same]

lemma values_insert (free : t.find? k = none) : (t.insert k r).values.Perm (r :: t.values) :=
  (insertRow_perm fun row mem own => by
    subst own
    rw [find?_eq_some_iff.2 mem] at free
    cases free).map _

end Transitive

variable [DecidableEq κ]

lemma KeyedBy.values_find? (h : t.KeyedBy own) (k : κ) :
    t.values.find? (own · == k) = t.find? k := by
  have same : t.rows.filter ((own · == k) ∘ (·.2)) =
      t.rows.filter fun row => compare row.1 k == .eq := List.filter_congr fun row mem => by
    rw [Function.comp, h.own_eq mem, Bool.eq_iff_iff, beq_iff_eq, beq_iff_eq, compare_eq_iff]
  rw [values, List.find?_map, find?, ← List.head?_filter, same, List.head?_filter]

lemma KeyedBy.values_filter_own (h : t.KeyedBy own) (k : κ) :
    t.values.filter (own · == k) = (t.find? k).toList := by
  rw [← h.values_find?]
  exact filter_eq_toList_find? h.values_nodup fun a memA b memB ha hb =>
    h.own_inj memA memB ((eq_of_beq ha).trans (eq_of_beq hb).symm)

lemma KeyedBy.contains_eq (h : t.KeyedBy own) (k : κ) :
    t.contains k = t.values.any (own · == k) := by
  rw [contains_eq_isSome, ← h.values_find?, List.isSome_find?]

lemma KeyedBy.contains_eq_decide (h : t.KeyedBy own) (k : κ) :
    t.contains k = decide (0 < (t.values.filter (own · == k)).length) := by
  rw [h.values_filter_own, contains_eq_isSome]
  cases t.find? k <;> rfl

lemma KeyedBy.values_erase (h : t.KeyedBy own) (k : κ) :
    (t.erase k).values = t.values.filter (own · != k) := by
  rw [values, values, List.filter_map]
  refine congrArg (List.map _) (List.filter_congr fun row mem => ?_)
  rw [Function.comp, h.own_eq mem, Bool.eq_iff_iff, bne_iff_ne, bne_iff_ne, Ne, compare_eq_iff]

lemma KeyedBy.values_modify (h : t.KeyedBy own) (k : κ) (f : ρ → ρ) :
    (t.modify k f).values = t.values.map fun r => if own r == k then f r else r := by
  rw [values, values, List.map_map, modify, List.map_map]
  refine List.map_congr_left fun row mem => ?_
  rw [Function.comp, Function.comp, h.own_eq mem]
  by_cases same : row.1 = k
  · rw [if_pos (compare_eq_iff.2 same), if_pos (beq_iff_eq.2 same)]
  · rw [if_neg (mt compare_eq_iff.1 same), if_neg (mt beq_iff_eq.1 same)]

end Table

def Grant.renumbered (ρ : Int → Int) (g : Grant) : Grant := { g with id := ρ g.id }

lemma Grant.renumbered_congr {ρ ρ' : Int → Int} {g : Grant} (same : ρ' g.id = ρ g.id) :
    g.renumbered ρ' = g.renumbered ρ := by rw [renumbered, same, renumbered]

def Grant.refreshed (g : Grant) (officeMask : String) (now : Timestamp) : Grant :=
  { g with officeMask := officeMask, updatedAt := now }

namespace Store

variable {s : Store} {now : Timestamp} {key : LockKey} {office lockId user : String}

lemma Kept.locks_keyedBy (h : s.Kept) : s.locks.KeyedBy Lock.key :=
  fun key l held => Lock.isFor_iff.1 (h.locks key l held).isFor

lemma Kept.grants_keyedBy (h : s.Kept) : s.grants.KeyedBy Grant.key :=
  fun key g held => (h.grants key g held).key

lemma Kept.id_le (h : s.Kept) {g : Grant} (mem : g ∈ s.grants.values) : g.id ≤ s.lastGrantId :=
  (h.grants g.key g (h.grants_keyedBy.find?_own mem)).given

lemma Kept.isLockId (h : s.Kept) {l : Lock} (mem : l ∈ s.locks.values) :
    isLockId l.lockId = true :=
  (h.locks l.key l (h.locks_keyedBy.find?_own mem)).named

lemma values_find?_isNamed (s : Store) (office lockId : String) :
    s.locks.values.find? (·.isNamed office lockId) = (s.lockNamed? office lockId).map (·.2) :=
  List.find?_map ..

lemma NamedOnce.eq_of_isNamed (h : s.NamedOnce) {l l' : Lock} (mem : l ∈ s.locks.values)
    (mem' : l' ∈ s.locks.values) (named : l.isNamed office lockId = true)
    (named' : l'.isNamed office lockId = true) : l = l' := by
  obtain ⟨key, held⟩ := Table.mem_values_iff.1 mem
  obtain ⟨key', held'⟩ := Table.mem_values_iff.1 mem'
  simp only [Lock.isNamed, Bool.and_eq_true, beq_iff_eq] at named named'
  obtain rfl := h key key' l l' held held' (named.2.trans named'.2.symm)
  exact Option.some.inj (held.symm.trans held')

lemma values_filter_isNamed (kept : s.Kept) (once : s.NamedOnce) (office lockId : String) :
    s.locks.values.filter (·.isNamed office lockId) =
      ((s.lockNamed? office lockId).map (·.2)).toList := by
  rw [← values_find?_isNamed]
  exact filter_eq_toList_find? kept.locks_keyedBy.values_nodup
    fun l mem l' mem' => once.eq_of_isNamed mem mem'

lemma deleteLockNamed_eq (kept : s.Kept) (once : s.NamedOnce) (office lockId : String) :
    (s.deleteLockNamed office lockId).1 =
        decide (0 < (s.locks.values.filter (·.isNamed office lockId)).length) ∧
      (s.deleteLockNamed office lockId).2.locks.values =
        s.locks.values.filter (!·.isNamed office lockId) := by
  rw [values_filter_isNamed kept once, deleteLockNamed]
  split
  · rename_i key l found
    obtain ⟨held, named⟩ := find?_of_lockNamed? found
    rw [found]
    refine ⟨rfl, (kept.locks_keyedBy.values_erase key).trans (List.filter_congr fun l' mem => ?_)⟩
    have memL : l ∈ s.locks.values := Table.mem_values_iff.2 ⟨key, held⟩
    have own : l.key = key := kept.locks_keyedBy key l held
    rw [Bool.eq_iff_iff, bne_iff_ne, Bool.not_eq_true', ← Bool.not_eq_true, ← own, not_iff_not]
    constructor
    · intro same
      rwa [kept.locks_keyedBy.own_inj mem memL same]
    · intro named'
      rw [once.eq_of_isNamed mem memL named' named]
  · rename_i missing
    rw [missing]
    refine ⟨rfl, (List.filter_eq_self.2 fun l mem => ?_).symm⟩
    have unnamed := values_find?_isNamed s office lockId
    rw [missing] at unnamed
    simpa using List.find?_eq_none.1 unnamed l mem

lemma values_filter_marked (kept : s.Kept) (key : LockKey) (lockId : String) :
    s.locks.values.filter (fun l => l.key == key && l.lockId == lockId) =
      ((s.locks.find? key).filter (·.lockId == lockId)).toList := by
  rw [Option.toList_filter, ← kept.locks_keyedBy.values_filter_own, List.filter_filter]
  exact List.filter_congr fun l _ => Bool.and_comm ..

lemma markRevocation_eq (kept : s.Kept) (now : Timestamp) (key : LockKey) (lockId user : String) :
    (s.markRevocation now key lockId user).1 =
        decide (0 < (s.locks.values.filter fun l => l.key == key && l.lockId == lockId).length) ∧
      (s.markRevocation now key lockId user).2.locks.values =
        s.locks.values.map fun l =>
          if l.key == key && l.lockId == lockId then l.stamped user now else l := by
  have marked := values_filter_marked kept key lockId
  rw [markRevocation]
  split
  · rename_i l found
    rw [found, Option.filter_some] at marked
    split
    · rename_i named
      rw [if_pos (beq_iff_eq.2 named)] at marked
      rw [marked]
      refine ⟨rfl, (kept.locks_keyedBy.values_modify key _).trans
        (List.map_congr_left fun l' mem => ?_)⟩
      -- only the lock that was found is on the key
      have own : (l'.key == key && l'.lockId == lockId) = (l'.key == key) := by
        rw [Bool.and_eq_left_iff_imp, beq_iff_eq, beq_iff_eq]
        rintro rfl
        cases found.symm.trans (kept.locks_keyedBy.find?_own mem)
        exact named
      rw [own]
    · rename_i other
      rw [if_neg (mt eq_of_beq other)] at marked
      exact ⟨by rw [marked]; rfl, (map_ite_of_filter_eq_nil marked).symm⟩
  · rename_i free
    rw [free] at marked
    exact ⟨by rw [marked]; rfl, (map_ite_of_filter_eq_nil marked).symm⟩

lemma insertLock_of_held {l : NewLock} (held : s.locks.contains l.key = true) (now : Timestamp) :
    s.insertLock now l = (none, s) := by
  rw [insertLock, if_pos held]

lemma insertLock_of_free {l : NewLock} (free : s.locks.contains l.key = false) (now : Timestamp) :
    s.insertLock now l =
      (some (l.toLock now), { s with locks := s.locks.insert l.key (l.toLock now) }) := by
  rw [insertLock, if_neg (by rw [free]; exact Bool.false_ne_true)]

lemma find?_upsertGrant (s : Store) (now : Timestamp) (g : NewGrant) :
    (s.upsertGrant now g).2.grants.find? g.key = some (s.upsertGrant now g).1 := by
  rw [upsertGrant]
  split <;> exact Table.find?_insert_self ..

lemma upsertGrant_of_free {g : NewGrant} (free : s.grants.find? g.key = none) (now : Timestamp) :
    s.upsertGrant now g = (g.toGrant (s.lastGrantId + 1) now,
      { s with
        grants := s.grants.insert g.key (g.toGrant (s.lastGrantId + 1) now)
        lastGrantId := s.lastGrantId + 1 }) := by
  rw [upsertGrant, free]
  rfl

lemma upsertGrant_of_held (held : s.grants.find? g.key = some old) (now : Timestamp) :
    s.upsertGrant now g = (old.refreshed g.officeMask now,
      { s with grants := s.grants.insert g.key (old.refreshed g.officeMask now) }) := by
  rw [upsertGrant, held]
  rfl

variable [Regex.Engine]

lemma deleteGrants_eq (s : Store) (office : String) (officeMask applicationMask : Mask)
    (user : String) :
    (s.deleteGrants office officeMask applicationMask user).1 =
        (s.grants.values.filter (isCleared office officeMask applicationMask user)).length ∧
      (s.deleteGrants office officeMask applicationMask user).2.grants.values =
        s.grants.values.filter (!isCleared office officeMask applicationMask user ·) := by
  refine ⟨?_, Table.values_filter ..⟩
  have parted := (List.filter_append_perm (isCleared office officeMask applicationMask user)
    s.grants.values).length_eq
  rw [List.length_append] at parted
  rw [deleteGrants, ← Table.length_values, ← Table.length_values, Table.values_filter, ← parted]
  exact Nat.add_sub_cancel ..

section Refresh

variable {g : NewGrant} {old : Grant}

lemma Kept.refreshed (h : s.Kept) (held : s.grants.find? g.key = some old) (now : Timestamp) :
    { s with grants := s.grants.insert g.key (old.refreshed g.officeMask now) }.Kept := by
  have kept : (s.upsertGrant now g).2.Kept :=
    h.apply (c := .upsertGrant g) now fun _ call => by cases call
  rwa [upsertGrant_of_held held] at kept

omit [Regex.Engine] in
lemma values_refresh (kept : s.Kept) (held : s.grants.find? g.key = some old) (now : Timestamp) :
    (s.grants.insert g.key (old.refreshed g.officeMask now)).values =
      s.grants.values.map fun a =>
        if a.key == g.key then a.refreshed g.officeMask now else a := by
  have keyed := kept.grants_keyedBy
  rw [Table.insert_eq_modify held, keyed.values_modify]
  refine List.map_congr_left fun a mem => ?_
  split
  · rename_i own
    cases held.symm.trans (eq_of_beq own ▸ keyed.find?_own mem)
    rfl
  · rfl

end Refresh

end Store

end LockRegistry
