import LockRegistry.Proofs.Authority.Reselection
import LockRegistry.Regex.Runner
import Mathlib.Data.String.Basic

namespace LockRegistry

lemma compare_texts_eq_lt {a b : List String} :
    compare a b = .lt ↔ a.map String.toList < b.map String.toList := by
  induction a generalizing b with
  | nil => cases b <;> simp
  | cons x a ih =>
    cases b with
    | nil => simp
    | cons y b =>
      rw [List.compare_cons_cons, Ordering.then_eq_lt, Std.LawfulLTCmp.eq_lt_iff_lt,
        Std.compare_eq_iff_eq, ih, List.map_cons, List.map_cons, List.cons_lt_cons_iff,
        String.lt_iff, String.toList_inj]

def LockKey.codePoints (k : LockKey) : List (List Char) := k.parts.map String.toList

lemma LockKey.compare_eq_lt {a b : LockKey} :
    compare a b = .lt ↔ a.codePoints < b.codePoints := compare_texts_eq_lt

namespace Locking

open Text

section Listing

variable {ι : Type} {s : Store} {filter : CatalogFilter} {zone : Zone} {l : Lock}

lemma mem_map_ofLock {locks : List Lock} {x : LockListing} :
    x ∈ locks.map (.ofLock zone) ↔ x.lock ∈ locks ∧
      x.acquireTime = ⟨x.lock.acquireTime, zone.offsetAt x.lock.acquireTime⟩ := by
  rw [List.mem_map]
  constructor
  · rintro ⟨l, mem, rfl⟩
    exact ⟨mem, rfl⟩
  · rintro ⟨mem, shown⟩
    exact ⟨x.lock, mem, congrArg (LockListing.mk x.lock) shown.symm⟩

variable [Regex.Engine]

lemma steps_list (s : Store) (filter : CatalogFilter) (zone : Zone) (t : Turn ι)
    (ts : List (Turn ι)) : (list filter zone).steps s (t :: ts) =
      (.done (.ok ((s.listLocks filter).map (.ofLock zone))), s) :=
  Op.steps_done ..

structure Selects (filter : CatalogFilter) (l : Lock) : Prop where
  office : filter.office.accepts l.office = true
  project : filter.project.accepts l.project = true
  application : filter.application.accepts l.application = true

lemma mem_listLocks :
    l ∈ s.listLocks filter ↔ (∃ key, s.locks.find? key = some l) ∧ Selects filter l := by
  rw [Store.listLocks, List.mem_filter, Table.mem_values_iff, CatalogFilter.accepts,
    Bool.and_eq_true, Bool.and_eq_true]
  refine and_congr_right fun _ => ?_
  constructor
  · rintro ⟨⟨office, project⟩, application⟩
    exact ⟨office, project, application⟩
  · rintro ⟨office, project, application⟩
    exact ⟨⟨office, project⟩, application⟩

structure Lists (s : Store) (filter : CatalogFilter) (zone : Zone) (listings : List LockListing) :
    Prop where
  mem_iff : ∀ x, x ∈ listings ↔ (∃ key, s.locks.find? key = some x.lock) ∧ Selects filter x.lock ∧
    x.acquireTime = ⟨x.lock.acquireTime, zone.offsetAt x.lock.acquireTime⟩
  nodup : listings.Nodup
  ordered : listings.Pairwise fun a b => a.lock.key.codePoints < b.lock.key.codePoints

lemma lists_of_keyedBy (placed : s.locks.KeyedBy Lock.key) :
    Lists s filter zone ((s.listLocks filter).map (.ofLock zone)) := by
  have ordered : (s.listLocks filter).Pairwise fun a b => a.key.codePoints < b.key.codePoints :=
    (placed.values_ordered.filter _).imp LockKey.compare_eq_lt.1
  refine ⟨fun x => ?_, ?_, List.pairwise_map.2 ordered⟩
  · rw [mem_map_ofLock, mem_listLocks, and_assoc]
  · refine (placed.values_nodup.filter _).map fun a b same => ?_
    exact congrArg LockListing.lock same

/-- The catalog lists exactly the locks that the filter selects, each once and in order; another
zone changes only the offsets. -/
theorem catalog (hs : s.Reachable) (filter : CatalogFilter) (zone : Zone) :
    ∃ listings, (∀ (t : Turn ι) ts, (list filter zone).steps s (t :: ts) =
        (.done (.ok listings), s)) ∧ Lists s filter zone listings ∧
      ∀ zone', ∃ listings', (∀ (t : Turn ι) ts, (list filter zone').steps s (t :: ts) =
          (.done (.ok listings'), s)) ∧
        List.Forall₂ (fun x x' => x'.lock = x.lock ∧
          x'.acquireTime.instant = x.acquireTime.instant) listings listings' := by
  refine ⟨_, steps_list s filter zone, lists_of_keyedBy hs.placed.locks, fun zone' => ?_⟩
  refine ⟨_, steps_list s filter zone', ?_⟩
  rw [List.forall₂_map_left_iff, List.forall₂_map_right_iff, List.forall₂_same]
  exact fun l _ => ⟨rfl, rfl⟩

end Listing

section Harbour

attribute [local instance] Regex.runner

def harbour : Nat → Operation
  | 0 => .request ⟨250, 10⟩ { key := ⟨"OSL", "quay", "editor"⟩ } none (lockIdOfNat 1)
  | 1 => .request ⟨250, 10⟩ { key := ⟨"OSL", "pier", "viewer"⟩ } none (lockIdOfNat 2)
  | 2 => .request ⟨250, 10⟩ { key := ⟨"BGO", "quay", "editor"⟩ } none (lockIdOfNat 3)
  | _ => .request ⟨250, 10⟩ { key := ⟨"SS", "quay", "editor"⟩ } none (lockIdOfNat 4)

def harbourTurn (i : Nat) : Turn Nat := { session := i, now := .ofNanos 0 }

def harbourHeld : Store := ((Sessions.start harbour).run ([0, 1, 2, 3].map harbourTurn)).store

lemma harbourHeld_reachable : harbourHeld.Reachable := ⟨_, _, rfl⟩

theorem catalog_harbour : ∃ listings x, (list { project := ⟨"qu?y"⟩ } (.fixed 3600)).steps
      harbourHeld [harbourTurn 4] = (.done (.ok listings), harbourHeld) ∧
    x ∈ listings ∧ x.lock.lockId = lockIdOfNat 1 ∧ x.acquireTime.offset = 3600 ∧
    ∀ y ∈ listings, y.lock.project ≠ "pier" := by
  obtain ⟨listings, listed, lists, -⟩ := catalog harbourHeld_reachable
    { project := ⟨"qu?y"⟩ } (.fixed 3600)
  have quay := (lists.mem_iff (.ofLock (.fixed 3600) (NewLock.toLock
    ⟨lockIdOfNat 1, ⟨"OSL", "quay", "editor"⟩, {}⟩ (.ofNanos 0)))).2
      ⟨⟨⟨"OSL", "quay", "editor"⟩, rfl⟩, ⟨by decide, by decide, by decide⟩, rfl⟩
  refine ⟨listings, _, listed _ _, quay, rfl, rfl, fun y mem pier => ?_⟩
  have selected := ((lists.mem_iff y).1 mem).2.1.project
  rw [pier] at selected
  revert selected
  decide

end Harbour

section ByName

variable {ι : Type} {s : Store} {l : Lock} {key : LockKey}
  {office project application : String}

variable [Regex.Engine]

lemma selects_by_name {k : LockKey} (own : l.key = k)
    (made : k = ⟨upper (trim office), trim project, lower (trim application)⟩) :
    Selects ⟨⟨trim office⟩, ⟨trim project⟩, ⟨trim application⟩⟩ l ↔
      Lasting upperLetter (trim office) ∧ Lasting lowerLetter (trim application) := by
  obtain ⟨o, p, a⟩ := LockKey.mk.inj (own.trans made)
  constructor
  · rintro ⟨office, -, application⟩
    exact ⟨Mask.accepts_upper.1 (o ▸ office), Mask.accepts_lower.1 (a ▸ application)⟩
  · rintro ⟨office, application⟩
    exact ⟨o ▸ Mask.accepts_upper.2 office, p ▸ Mask.accepts_self _,
      a ▸ Mask.accepts_lower.2 application⟩

/-- A lock is listed by the texts that made its key just when their letters last. -/
theorem listed_by_name (hs : s.Reachable) (hk : LockKey.ofRaw office project application = .ok key)
    (held : s.locks.find? key = some l) (zone : Zone) :
    ∃ filter listings, CatalogFilter.ofRaw (some project) (some application) (some office) =
        .ok filter ∧
      (∀ (t : Turn ι) ts, (list filter zone).steps s (t :: ts) = (.done (.ok listings), s)) ∧
      ((∃ x ∈ listings, x.lock = l) ↔
        Lasting upperLetter (trim office) ∧ Lasting lowerLetter (trim application)) := by
  obtain ⟨ho, hp, ha⟩ := LockKey.takes_of_ofRaw hk
  have made := LockKey.eq_of_ofRaw hk
  have filter : CatalogFilter.ofRaw (some project) (some application) (some office) =
      .ok ⟨⟨trim office⟩, ⟨trim project⟩, ⟨trim application⟩⟩ := by
    simp only [CatalogFilter.ofRaw, Mask.ofOption_of_field ho, Mask.ofOption_of_field hp,
      Mask.ofOption_of_field ha, ok_bind]
    rfl
  refine ⟨_, _, filter, steps_list s _ zone, ?_⟩
  rw [← selects_by_name (hs.placed.locks key l held) made]
  constructor
  · rintro ⟨x, mem, rfl⟩
    exact (mem_listLocks.1 (mem_map_ofLock.1 mem).1).2
  · intro selects
    exact ⟨.ofLock zone l, List.mem_map_of_mem (mem_listLocks.2 ⟨⟨key, held⟩, selects⟩), rfl⟩

end ByName

attribute [local instance] Regex.runner

theorem listed_by_name_lost : ¬ ∀ (s : Store) (office project application : String)
    (key : LockKey) (l : Lock), s.Reachable → LockKey.ofRaw office project application = .ok key →
      s.locks.find? key = some l →
      ∃ filter listings, CatalogFilter.ofRaw (some project) (some application) (some office) =
          .ok filter ∧
        (list filter .utc).steps s [harbourTurn 4] = (.done (.ok listings), s) ∧
        ∃ x ∈ listings, x.lock = l := by
  intro lists
  obtain ⟨filter, listings, made, listed, x, mem, -⟩ :=
    lists harbourHeld "ß" "quay" "editor" _ _ harbourHeld_reachable rfl rfl
  cases made
  cases listed
  cases mem

theorem listed_by_name_harbour : ∃ filter listings,
    CatalogFilter.ofRaw (some " quay") (some "Editor") (some "osl ") = .ok filter ∧
      (list filter .utc).steps harbourHeld [harbourTurn 4] = (.done (.ok listings), harbourHeld) ∧
      ∃ x ∈ listings, x.lock.lockId = lockIdOfNat 1 := by
  obtain ⟨filter, listings, made, listed, found⟩ := listed_by_name (ι := Nat)
    harbourHeld_reachable (show LockKey.ofRaw "osl " " quay" "Editor" =
      .ok ⟨"OSL", "quay", "editor"⟩ from rfl) rfl .utc
  have lasting : Lasting upperLetter (trim "osl ") ∧ Lasting lowerLetter (trim "Editor") := by
    decide +kernel
  obtain ⟨x, mem, same⟩ := found.2 lasting
  exact ⟨filter, listings, made, listed _ _, x, mem, same ▸ rfl⟩

end Locking

end LockRegistry
