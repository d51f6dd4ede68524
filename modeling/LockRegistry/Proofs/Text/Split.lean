import Mathlib.Data.List.Basic
import Mathlib.Tactic.Lemma

namespace LockRegistry.Text

open List

variable {α : Type} {x : α} {l : List α} {ls : List (List α)}

lemma mem_intercalate {c : α} (other : c ≠ x) : c ∈ [x].intercalate ls ↔ ∃ l ∈ ls, c ∈ l := by
  induction ls with
  | nil => simp
  | cons l ls ih =>
    cases ls with
    | nil => simp
    | cons l' ls =>
      rw [intercalate_cons_cons, mem_append, mem_append, ih, exists_mem_cons_iff]
      simp [other]

variable [BEq α]

lemma length_splitOn (x : α) (l : List α) : (splitOn x l).length = count x l + 1 := by
  induction l with
  | nil => simp
  | cons a l ih =>
    rw [splitOn_cons_eq_if_modifyHead, count_cons]
    split <;> simp [ih]

variable [LawfulBEq α]

lemma not_mem_of_mem_splitOn {piece : List α} (h : piece ∈ splitOn x l) : x ∉ piece := by
  induction l generalizing piece with
  | nil => simp_all
  | cons a l ih =>
    rw [splitOn_cons_eq_if_modifyHead] at h
    split at h
    · rcases mem_cons.1 h with rfl | later
      · exact not_mem_nil
      · exact ih later
    · rename_i other
      obtain ⟨first, rest, pieces⟩ := exists_cons_of_ne_nil (splitOn_ne_nil x l)
      rw [pieces] at h ih
      rcases mem_cons.1 h with rfl | later
      · rw [mem_cons, not_or]
        exact ⟨fun same => other (beq_iff_eq.2 same.symm), ih mem_cons_self⟩
      · exact ih (mem_cons_of_mem _ later)

lemma splitOn_intercalate_eq (nonempty : ls ≠ []) :
    splitOn x ([x].intercalate ls) = ls.flatMap (splitOn x) := by
  induction ls with
  | nil => exact absurd rfl nonempty
  | cons l ls ih =>
    cases ls with
    | nil => simp
    | cons l' ls =>
      rw [intercalate_cons_cons, append_assoc, singleton_append, splitOn_append_cons_self,
        ih (cons_ne_nil _ _)]
      rfl

lemma length_flatMap_splitOn :
    (ls.flatMap (splitOn x)).length = ls.length ↔ ∀ l ∈ ls, x ∉ l := by
  have count : (ls.flatMap (splitOn x)).length = ls.length + ls.flatten.count x := by
    induction ls with
    | nil => rfl
    | cons l ls ih =>
      rw [flatMap_cons, length_append, ih, length_splitOn, flatten_cons, count_append, length_cons]
      omega
  rw [count, Nat.add_eq_left, count_eq_zero, mem_flatten]
  exact ⟨fun none l hl mem => none ⟨l, hl, mem⟩, fun none ⟨l, hl, mem⟩ => none l hl mem⟩

lemma splitOn_intercalate_iff (nonempty : ls ≠ []) :
    splitOn x ([x].intercalate ls) = ls ↔ ∀ l ∈ ls, x ∉ l :=
  ⟨fun same _ mem => not_mem_of_mem_splitOn (same ▸ mem),
    fun none => splitOn_intercalate x none nonempty⟩

end LockRegistry.Text
