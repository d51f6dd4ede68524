import LockRegistry.Proofs.Database.Rows

namespace LockRegistry

lemma mapM_map_ok {ε α β : Type} {f : α → β} {read : β → Except ε α}
    (ok : ∀ a, read (f a) = .ok a) (l : List α) : (l.map f).mapM read = .ok l := by
  rw [mapM_eq_ok, List.forall₂_map_left_iff, List.forall₂_same]
  exact fun a _ => ok a

lemma eq_toList_of_perm {α : Type} {l : List α} {o : Option α} (h : l.Perm o.toList) :
    l = o.toList := by
  cases o with
  | none => exact h.eq_nil
  | some a => exact List.perm_singleton.1 h

namespace Database

lemma records_result (r : Relation) (rows : List Row) :
    (Tables.result r rows).records = rows.map r.record := List.map_map ..

lemma firstLock?_result (o : Option Lock) :
    (Tables.result .locks (o.toList.map .ofLock)).firstLock? = .ok o := by
  rw [ResultSet.firstLock?, records_result]
  cases o with
  | none => rfl
  | some l => exact congrArg (Except.map some) (lock_record l)

lemma locks_result (locks : List Lock) :
    (Tables.result .locks (locks.map .ofLock)).records.mapM Record.lock = .ok locks := by
  rw [records_result, List.map_map]
  exact mapM_map_ok lock_record locks

lemma grants_result (grants : List Grant) (ρ : Int → Int) :
    (Tables.result .grants (grants.map fun g => .ofGrant (g.renumbered ρ))).records.mapM
      Record.grant = .ok (grants.map (Grant.renumbered ρ)) := by
  have same : grants.map (fun g => Row.ofGrant (g.renumbered ρ)) =
      (grants.map (Grant.renumbered ρ)).map .ofGrant := by rw [List.map_map]; rfl
  rw [same, records_result, List.map_map]
  exact mapM_map_ok grant_record _

lemma first_result (g : Grant) :
    (Tables.result .grants [.ofGrant g]).first >>= Record.grant = .ok g := grant_record g

section Choice

variable {α : Type} {f : α → Row} {values : List α} {rows : List Row} {p : α → Bool}

lemma filter_perm (c : Row → Bool) (same : rows.Perm (values.map f)) (means : ∀ a, c (f a) = p a) :
    (rows.filter c).Perm ((values.filter p).map f) := by
  have h := same.filter c
  have alike : values.filter (c ∘ f) = values.filter p := List.filter_congr fun a _ => means a
  rwa [List.filter_map, alike] at h

lemma map_perm (c : Row → Bool) (g : Row → Row) (change : α → α) (same : rows.Perm (values.map f))
    (means : ∀ a, c (f a) = p a) (assigned : ∀ a, g (f a) = f (change a)) :
    (rows.map fun row => if c row then g row else row).Perm
      ((values.map fun a => if p a then change a else a).map f) := by
  have h := same.map fun row => if c row then g row else row
  rw [List.map_map] at h ⊢
  refine h.trans (.of_eq (List.map_congr_left fun a _ => ?_))
  simp only [Function.comp, means, assigned]
  split <;> rfl

lemma sort_eq {order : List Column} {sorted : List Row} (same : rows.Perm sorted)
    (before : sorted.Pairwise fun a b => compare (a.texts order) (b.texts order) = .lt) :
    Tables.sort order rows = sorted := by
  have perm : (Tables.sort order rows).Perm sorted := (List.mergeSort_perm ..).trans same
  have differ : (Tables.sort order rows).Pairwise fun a b =>
      compare (a.texts order) (b.texts order) ≠ .eq :=
    (perm.pairwise_iff fun {a b} h e => h (Std.OrientedCmp.eq_symm e)).2
      (before.imp fun {a b} h => by rw [h]; decide)
  have upward : (Tables.sort order rows).Pairwise fun a b =>
      (compare (a.texts order) (b.texts order)).isLE = true :=
    List.pairwise_mergeSort (fun a b c => Std.TransCmp.isLE_trans) (fun a b => by
      rw [Bool.or_eq_true, Decidable.or_iff_not_imp_left]
      exact fun h => Ordering.isLE_of_eq_lt (Std.OrientedCmp.lt_of_not_isLE h)) rows
  have before' : (Tables.sort order rows).Pairwise fun a b =>
      compare (a.texts order) (b.texts order) = .lt :=
    (upward.and differ).imp fun h => (Ordering.isLE_iff_eq_lt_or_eq_eq.1 h.1).resolve_right h.2
  exact perm.eq_of_pairwise (fun a b _ _ h h' => by
    cases h.symm.trans (Std.OrientedCmp.gt_iff_lt.2 h')) before' before

lemma any_perm (c : Row → Bool) (same : rows.Perm (values.map f)) (means : ∀ a, c (f a) = p a) :
    rows.any c = values.any p := by
  rw [same.any_eq, List.any_map]
  exact congrArg (List.any values) (funext means)

namespace Tables

variable {t t' : Tables} {now : Timestamp} {r : Relation} {q : Query} {row : Row}
  {columns : List Column} {conditions : List Condition} {set : List Assignment}

lemma select_eq (order : List Column) (same : (t.rows r).Perm (values.map f))
    (means : ∀ a, (f a).satisfies q conditions = p a)
    (before : ((values.filter p).map f).Pairwise fun a b =>
      compare (a.texts order) (b.texts order) = .lt) :
    t.select q r conditions order = result r ((values.filter p).map f) :=
  congrArg (result r) (sort_eq (filter_perm (·.satisfies q conditions) same means) before)

lemma select_once {order : List Column} {o : Option α} (same : (t.rows r).Perm (values.map f))
    (means : ∀ a, (f a).satisfies q conditions = p a) (once : values.filter p = o.toList) :
    t.select q r conditions order = result r (o.toList.map f) := by
  rw [← once]
  refine select_eq order same means ?_
  rw [once]
  cases o with
  | none => exact .nil
  | some a => exact List.pairwise_singleton ..

lemma delete_count (same : (t.rows r).Perm (values.map f))
    (means : ∀ a, (f a).satisfies q conditions = p a) :
    ∃ rest, t.delete q r conditions false =
        (.ok ⟨[], [], (values.filter p).length⟩, t.withRows r rest) ∧
      rest.Perm ((values.filter (!p ·)).map f) := by
  have length := (filter_perm (·.satisfies q conditions) same means).length_eq
  rw [List.length_map] at length
  refine ⟨_, ?_, filter_perm (!·.satisfies q conditions) same fun a => congrArg (!·) (means a)⟩
  rw [delete, List.partition_eq_filter_filter, ← length]
  rfl

lemma delete_once {o : Option α} (same : (t.rows r).Perm (values.map f))
    (means : ∀ a, (f a).satisfies q conditions = p a) (once : values.filter p = o.toList) :
    ∃ rest, t.delete q r conditions true = (.ok (result r (o.toList.map f)), t.withRows r rest) ∧
      rest.Perm ((values.filter (!p ·)).map f) := by
  have chosen := filter_perm (·.satisfies q conditions) same means
  rw [once, ← Option.toList_map] at chosen
  refine ⟨_, ?_, filter_perm (!·.satisfies q conditions) same fun a => congrArg (!·) (means a)⟩
  rw [delete, List.partition_eq_filter_filter, ← Option.toList_map, ← eq_toList_of_perm chosen]
  rfl

lemma update_eq (change : α → α) (same : (t.rows r).Perm (values.map f))
    (means : ∀ a, (f a).satisfies q conditions = p a)
    (assigned : ∀ a, (f a).assign (f a) q now set = f (change a))
    (sound : ∀ a ∈ values, r.brokenCheck? (f (change a)) = none) :
    ∃ rows, t.update now q r set conditions =
        (.ok ⟨[], [], (values.filter p).length⟩, t.withRows r rows) ∧
      rows.Perm ((values.map fun a => if p a then change a else a).map f) := by
  have chosen := filter_perm (·.satisfies q conditions) same means
  have broken : (((t.rows r).filter (·.satisfies q conditions)).map fun row =>
      row.assign row q now set).findSome? r.brokenCheck? = none := by
    rw [List.findSome?_eq_none_iff]
    intro assignedRow mem
    obtain ⟨row, memRow, rfl⟩ := List.mem_map.1 mem
    obtain ⟨a, memA, rfl⟩ := List.mem_map.1 (chosen.mem_iff.1 memRow)
    rw [assigned a]
    exact sound a (List.mem_filter.1 memA).1
  have length := chosen.length_eq
  rw [List.length_map] at length
  refine ⟨_, ?_, map_perm (·.satisfies q conditions) (fun row => row.assign row q now set) change
    same means assigned⟩
  rw [update, broken, length]

lemma insert_nothing (completed : t.complete now (.ofParams columns q) r = (row, t'))
    (sound : r.brokenCheck? row = none) (same : (t'.rows r).Perm (values.map f))
    (own : ∀ a, (f a).agrees row r.key = p a) (held : values.any p = true) :
    t.insert now q r columns .nothing = (.ok (result r []), t') := by
  have there := (any_perm (·.agrees row r.key) same own).trans held
  simp [insert, completed, sound, there]

lemma insert_new (conflict : OnConflict) {new : α}
    (completed : t.complete now (.ofParams columns q) r = (f new, t'))
    (sound : r.brokenCheck? (f new) = none) (same : (t'.rows r).Perm (values.map f))
    (own : ∀ a, (f a).agrees (f new) r.key = p a) (free : values.any p = false)
    (fresh : ∀ a ∈ values, (f a).agrees (f new) [r.primaryKey.1] = false) :
    ∃ rows, t.insert now q r columns conflict = (.ok (result r [f new]), t'.withRows r rows) ∧
      rows.Perm ((new :: values).map f) := by
  have absent := (any_perm (·.agrees (f new) r.key) same own).trans free
  have unnamed := (any_perm (·.agrees (f new) [r.primaryKey.1]) same fun _ => rfl).trans
    (List.any_eq_false.2 fun a mem => by rw [fresh a mem]; nofun)
  refine ⟨_, ?_, (List.perm_append_singleton (f new) (t'.rows r)).trans (same.cons _)⟩
  simp [insert, completed, sound, absent, unnamed]

lemma insert_update (change : α → α) {chosen : α}
    (completed : t.complete now (.ofParams columns q) r = (row, t'))
    (sound : r.brokenCheck? row = none) (same : (t'.rows r).Perm (values.map f))
    (own : ∀ a, (f a).agrees row r.key = p a) (held : values.any p = true)
    (assigned : ∀ a, (f a).assign row q now set = f (change a))
    (once : (values.map fun a => if p a then change a else a).filter p = [chosen]) :
    ∃ rows, t.insert now q r columns (.update set) =
        (.ok (result r [f chosen]), t'.withRows r rows) ∧
      rows.Perm ((values.map fun a => if p a then change a else a).map f) := by
  have there := (any_perm (·.agrees row r.key) same own).trans held
  have changed := map_perm (·.agrees row r.key) (·.assign row q now set) change same own assigned
  have returned := filter_perm (·.agrees row r.key) changed own
  rw [once] at returned
  refine ⟨_, ?_, changed⟩
  simp only [insert, completed, sound, there, if_true]
  rw [List.perm_singleton.1 returned]

end Tables

end Choice

end Database

end LockRegistry
