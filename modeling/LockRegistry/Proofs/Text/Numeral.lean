import LockRegistry.Text.Numeral
import Mathlib.Algebra.Group.Nat.Defs
import Mathlib.Tactic.Lemma

namespace LockRegistry.Text

def AreDigits (cs : List Char) : Prop := cs ≠ [] ∧ ∀ c ∈ cs, c.isDigit = true

inductive Numeral (negative : Bool) : List Char → Int → Prop
  | plain {ds : List Char} (digits : AreDigits ds) : Numeral negative ds (Nat.ofDigitChars 10 ds 0)
  | plus {ds : List Char} (digits : AreDigits ds) :
      Numeral negative ('+' :: ds) (Nat.ofDigitChars 10 ds 0)
  | minus {ds : List Char} (signed : negative = true) (digits : AreDigits ds) :
      Numeral negative ('-' :: ds) (-Nat.ofDigitChars 10 ds 0)

variable {cs ds : List Char} {n : Nat} {i : Int} {negative : Bool}

lemma digitsValue_eq (cs : List Char) : digitsValue cs = Nat.ofDigitChars 10 cs 0 :=
  Nat.ofDigitChars_eq_foldl.symm

lemma natural?_eq_some :
    natural? cs = some n ↔ AreDigits cs ∧ n = Nat.ofDigitChars 10 cs 0 := by
  have digits : (!cs.isEmpty && cs.all Char.isDigit) = true ↔ AreDigits cs := by
    simp [AreDigits]
  rw [natural?, digitsValue_eq]
  split
  · rename_i h
    simp only [digits.1 h, true_and, Option.some.injEq, eq_comm]
  · rename_i h
    exact ⟨nofun, fun ⟨well, _⟩ => absurd (digits.2 well) h⟩

lemma map_natural?_eq_some {f : Nat → Int} :
    (natural? cs).map f = some i ↔ AreDigits cs ∧ i = f (Nat.ofDigitChars 10 cs 0) := by
  simp only [Option.map_eq_some_iff, natural?_eq_some]
  constructor
  · rintro ⟨n, ⟨digits, rfl⟩, rfl⟩
    exact ⟨digits, rfl⟩
  · rintro ⟨digits, rfl⟩
    exact ⟨_, ⟨digits, rfl⟩, rfl⟩

lemma not_areDigits_of_sign {c : Char} (sign : c.isDigit = false) : ¬ AreDigits (c :: cs) := by
  rintro ⟨-, digits⟩
  simp [sign] at digits

lemma signed?_eq_some : signed? negative cs = some i ↔ Numeral negative cs i := by
  unfold signed?
  split
  · rename_i rest
    rw [map_natural?_eq_some]
    constructor
    · rintro ⟨digits, rfl⟩
      exact .plus digits
    · intro h
      cases h with
      | plain digits => exact absurd digits (not_areDigits_of_sign rfl)
      | plus digits => exact ⟨digits, rfl⟩
  · rename_i rest
    constructor
    · intro h
      split at h
      · rename_i signed
        obtain ⟨digits, rfl⟩ := map_natural?_eq_some.1 h
        exact .minus signed digits
      · cases h
    · intro h
      cases h with
      | plain digits => exact absurd digits (not_areDigits_of_sign rfl)
      | minus signed digits =>
        rw [if_pos signed]
        exact map_natural?_eq_some.2 ⟨digits, rfl⟩
  · rename_i noPlus noMinus
    rw [map_natural?_eq_some]
    constructor
    · rintro ⟨digits, rfl⟩
      exact .plain digits
    · intro h
      cases h with
      | plain digits => exact ⟨digits, rfl⟩
      | plus => exact absurd rfl (noPlus _)
      | minus => exact absurd rfl (noMinus _)

lemma integer?_eq_some {range : IntRange} {s : String} :
    integer? range s = some i ↔
      Numeral (range.least < 0) s.toList i ∧ range.least ≤ i ∧ i ≤ range.greatest := by
  simp only [integer?, Option.bind_eq_bind, Option.bind_eq_some_iff, signed?_eq_some]
  constructor
  · rintro ⟨n, numeral, h⟩
    split at h
    · rename_i within
      obtain rfl := Option.some.inj h
      exact ⟨numeral, within⟩
    · cases h
  · rintro ⟨numeral, within⟩
    exact ⟨i, numeral, if_pos within⟩

section Padded

variable {width : Nat}

lemma toList_padded (width n : Nat) : (padded width n).toList =
    List.replicate (width - (Nat.toDigits 10 n).length) '0' ++ Nat.toDigits 10 n := by
  rw [padded, String.toList_ofList]

lemma isDigit_of_mem_padded {c : Char} (h : c ∈ (padded width n).toList) : c.isDigit = true := by
  rw [toList_padded, List.mem_append] at h
  rcases h with zero | digit
  · rw [List.eq_of_mem_replicate zero]
    rfl
  · exact Nat.isDigit_of_mem_toDigits (by decide) (Nat.le_refl 10) digit

lemma ofDigitChars_padded (width n : Nat) : Nat.ofDigitChars 10 (padded width n).toList 0 = n := by
  rw [toList_padded, Nat.ofDigitChars_append, Nat.ofDigitChars_replicate_zero, Nat.mul_zero,
    Nat.ofDigitChars_toDigits (by decide) (by decide)]

lemma le_length_padded (width n : Nat) : width ≤ (padded width n).toList.length := by
  rw [toList_padded, List.length_append, List.length_replicate]
  omega

lemma length_padded (positive : 0 < width) (h : n < 10 ^ width) :
    (padded width n).toList.length = width := by
  have short := (Nat.length_toDigits_le_iff (by decide) positive).2 h
  rw [toList_padded, List.length_append, List.length_replicate]
  omega

end Padded

end LockRegistry.Text
