
namespace LockRegistry

universe u v

structure Table (κ : Type u) (ρ : Type v) [Ord κ] where
  rows : List (κ × ρ)
  ordered : rows.Pairwise fun a b => compare a.1 b.1 = .lt

namespace Table

variable {κ : Type u} {ρ : Type v} [Ord κ]

def empty : Table κ ρ := ⟨[], .nil⟩

instance : Inhabited (Table κ ρ) := ⟨empty⟩

def size (t : Table κ ρ) : Nat := t.rows.length

def values (t : Table κ ρ) : List ρ := t.rows.map (·.2)

def find? (t : Table κ ρ) (k : κ) : Option ρ :=
  (t.rows.find? fun row => compare row.1 k == .eq).map (·.2)

def contains (t : Table κ ρ) (k : κ) : Bool := t.rows.any fun row => compare row.1 k == .eq

def filter (t : Table κ ρ) (keep : κ → ρ → Bool) : Table κ ρ :=
  ⟨t.rows.filter fun row => keep row.1 row.2, t.ordered.filter _⟩

def erase (t : Table κ ρ) (k : κ) : Table κ ρ := t.filter fun k' _ => compare k' k != .eq

def modify (t : Table κ ρ) (k : κ) (f : ρ → ρ) : Table κ ρ where
  rows := t.rows.map fun row => if compare row.1 k = .eq then (row.1, f row.2) else row
  ordered := List.pairwise_map.2 (t.ordered.imp fun {a b} h => by
    split <;> split <;> exact h)

def insertRow (k : κ) (r : ρ) : List (κ × ρ) → List (κ × ρ)
  | [] => [(k, r)]
  | row :: rest =>
    match compare k row.1 with
    | .lt => (k, r) :: row :: rest
    | .eq => (k, r) :: rest
    | .gt => row :: insertRow k r rest

theorem mem_insertRow {k : κ} {r : ρ} {rows : List (κ × ρ)} {x : κ × ρ}
    (h : x ∈ insertRow k r rows) : x = (k, r) ∨ x ∈ rows := by
  induction rows with
  | nil => simpa [insertRow] using h
  | cons row rest ih =>
    simp only [insertRow] at h
    split at h
    · simpa using h
    · rcases List.mem_cons.1 h with h | h
      · exact .inl h
      · exact .inr (List.mem_cons_of_mem _ h)
    · rcases List.mem_cons.1 h with h | h
      · exact .inr (h ▸ List.mem_cons_self)
      · exact (ih h).imp_right (List.mem_cons_of_mem _)

theorem contains_eq_isSome (t : Table κ ρ) (k : κ) : t.contains k = (t.find? k).isSome := by
  rw [Bool.eq_iff_iff]
  simp [contains, find?]

variable [Std.TransOrd κ] [Std.LawfulEqOrd κ]

theorem ordered_insertRow (k : κ) (r : ρ) {rows : List (κ × ρ)}
    (h : rows.Pairwise fun a b => compare a.1 b.1 = .lt) :
    (insertRow k r rows).Pairwise fun a b => compare a.1 b.1 = .lt := by
  induction rows with
  | nil => simp [insertRow]
  | cons row rest ih =>
    have ⟨first, tail⟩ := List.pairwise_cons.1 h
    simp only [insertRow]
    split <;> rename_i c
    · refine List.pairwise_cons.2 ⟨fun x hx => ?_, h⟩
      rcases List.mem_cons.1 hx with rfl | hx
      · exact c
      · exact Std.TransCmp.lt_trans c (first x hx)
    · refine List.pairwise_cons.2 ⟨fun x hx => ?_, tail⟩
      rw [Std.LawfulEqCmp.eq_of_compare c]
      exact first x hx
    · refine List.pairwise_cons.2 ⟨fun x hx => ?_, ih tail⟩
      rcases mem_insertRow hx with rfl | hx
      · exact Std.OrientedCmp.gt_iff_lt.1 c
      · exact first x hx

def insert (t : Table κ ρ) (k : κ) (r : ρ) : Table κ ρ :=
  ⟨insertRow k r t.rows, ordered_insertRow k r t.ordered⟩

omit [Std.TransOrd κ] in
theorem find?_insertRow (k k' : κ) (r : ρ) (rows : List (κ × ρ)) :
    (insertRow k r rows).find? (fun row => compare row.1 k' == .eq) =
      if compare k k' = .eq then some (k, r)
      else rows.find? (fun row => compare row.1 k' == .eq) := by
  induction rows with
  | nil => by_cases h : compare k k' = .eq <;> simp [insertRow, h]
  | cons row rest ih =>
    simp only [insertRow]
    split <;> rename_i c
    · by_cases h : compare k k' = .eq <;> simp [h]
    · have e := Std.LawfulEqCmp.eq_of_compare c
      subst e
      by_cases h : compare row.1 k' = .eq <;> simp [h]
    · by_cases h : compare k k' = .eq
      · have e := Std.LawfulEqCmp.eq_of_compare h
        subst e
        have ne : compare row.1 k ≠ .eq := fun e => by
          have same := Std.LawfulEqCmp.eq_of_compare e
          subst same
          rw [e] at c
          exact absurd c (by decide)
        simp [ih, ne]
      · simp only [List.find?_cons, ih, h, if_false]

theorem find?_insert (t : Table κ ρ) (k k' : κ) (r : ρ) :
    (t.insert k r).find? k' = if compare k k' = .eq then some r else t.find? k' := by
  simp only [find?, insert, find?_insertRow]
  split <;> rfl

omit [Std.TransOrd κ] in
theorem find?_erase (t : Table κ ρ) (k k' : κ) :
    (t.erase k).find? k' = if compare k' k = .eq then none else t.find? k' := by
  simp only [find?, erase, filter, List.find?_filter]
  split <;> rename_i h
  · have e := Std.LawfulEqCmp.eq_of_compare h
    subst e
    simp
  · congr 2
    funext row
    by_cases c : compare row.1 k' = .eq
    · simp [Std.LawfulEqCmp.eq_of_compare c, h]
    · simp [c]

omit [Std.TransOrd κ] in
theorem find?_modify (t : Table κ ρ) (k k' : κ) (f : ρ → ρ) :
    (t.modify k f).find? k' = (t.find? k').map fun r => if compare k' k = .eq then f r else r := by
  simp only [find?, modify, List.find?_map, Option.map_map]
  have same : ((fun row : κ × ρ => compare row.1 k' == .eq) ∘
      fun row : κ × ρ => if compare row.1 k = .eq then (row.1, f row.2) else row) =
      fun row => compare row.1 k' == .eq := by
    funext row
    simp only [Function.comp]
    split <;> rfl
  rw [same]
  cases h : t.rows.find? fun row => compare row.1 k' == .eq with
  | none => rfl
  | some row =>
    have c : (compare row.1 k' == .eq) = true :=
      List.find?_some (p := fun row : κ × ρ => compare row.1 k' == .eq) h
    have e := Std.LawfulEqCmp.eq_of_compare (eq_of_beq c)
    simp only [Option.map_some, Function.comp, e]
    split <;> rfl

end Table

end LockRegistry
