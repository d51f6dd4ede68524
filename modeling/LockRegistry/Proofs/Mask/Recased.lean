import LockRegistry.Proofs.Mask.Pieces
import LockRegistry.Proofs.Text.CaseFold

/-! A mask against its own text in other case. A form that is lost is asked for by the mask and
found nowhere in the text, so that no other cut can help. -/

namespace LockRegistry.Mask

open Text

variable {letter : Char → List Char} {lost : Char → Bool} {c : Char} {piece cs ds : List Char}

def Spells (letter : Char → List Char) (c : Char) (piece : List Char) : Prop :=
  piece.map fold = (letter c).map fold

lemma spells_flatMap (letter : Char → List Char) (cs : List Char) :
    Cut (Spells letter) cs (cs.flatMap letter) := by
  induction cs with
  | nil => exact cut_nil.2 rfl
  | cons c cs ih => exact cut_cons.2 ⟨letter c, _, rfl, ih, List.flatMap_cons⟩

lemma spells_lower (inWord : Bool) (cs : List Char) :
    Cut (Spells lowerLetter) cs (lowerFrom inWord cs) := by
  induction cs generalizing inWord with
  | nil => exact cut_nil.2 rfl
  | cons c cs ih =>
    refine cut_cons.2 ⟨_, _, ?_, ih _, rfl⟩
    split
    · rename_i sigma
      subst sigma
      -- both small forms of a sigma fold to the same letter, wherever it stands
      split <;> simp only [Spells] <;> decide +kernel
    · rfl

lemma Spells.stands (h : Spells letter c piece) (lasts : Lasts letter c) : Stands c piece := by
  obtain ⟨d, rfl, same⟩ := List.map_eq_singleton_iff.1 (h.trans lasts)
  unfold Stands
  split
  · trivial
  · split
    · exact ⟨d, rfl⟩
    · exact ⟨d, rfl, sameLetter_iff.2 same⟩

lemma stands_of_lasts (h : Cut (Spells letter) cs ds) (lasts : ∀ c ∈ cs, Lasts letter c) :
    Cut Stands cs ds := by
  induction cs generalizing ds with
  | nil => exact cut_nil.2 (cut_nil.1 h)
  | cons c cs ih =>
    obtain ⟨piece, rest, spells, others, rfl⟩ := cut_cons.1 h
    have here := spells.stands (lasts c List.mem_cons_self)
    exact cut_cons.2 ⟨piece, rest, here, ih others fun d hd => lasts d (List.mem_cons_of_mem _ hd),
      rfl⟩

section Counts

def losses (lost : Char → Bool) (cs : List Char) : Nat := cs.countP fun c => lost (fold c)

lemma losses_append (lost : Char → Bool) (cs ds : List Char) :
    losses lost (cs ++ ds) = losses lost cs + losses lost ds := List.countP_append

lemma losses_cons (lost : Char → Bool) (c : Char) (cs : List Char) :
    losses lost (c :: cs) = losses lost [c] + losses lost cs := losses_append lost [c] cs

variable (parts : Parts letter lost)

include parts

lemma losses_le_of_stands (h : Stands c piece) : losses lost [c] ≤ losses lost piece := by
  unfold Stands at h
  by_cases wild : isWildcard c = true
  · simp [losses, parts.wildcards c wild]
  · simp only [isWildcard, Bool.or_eq_true, beq_iff_eq, not_or] at wild
    rw [if_neg wild.1, if_neg wild.2] at h
    obtain ⟨d, rfl, same⟩ := h
    simp [losses, sameLetter_iff.1 same]

lemma losses_le_of_cut (h : Cut Stands cs ds) : losses lost cs ≤ losses lost ds := by
  induction cs generalizing ds with
  | nil => exact Nat.zero_le _
  | cons c cs ih =>
    obtain ⟨piece, rest, here, others, rfl⟩ := cut_cons.1 h
    rw [losses_cons, losses_append]
    exact Nat.add_le_add (losses_le_of_stands parts here) (ih others)

lemma losses_of_spells (h : Spells letter c piece) :
    losses lost piece + [c].countP (¬ Lasts letter ·) ≤ losses lost [c] := by
  have same : losses lost piece = losses lost (letter c) := by
    unfold losses
    have count (l : List Char) : l.countP (fun d => lost (fold d)) = (l.map fold).countP lost :=
      List.countP_map.symm
    rw [count, count, h]
  rw [same]
  rcases parts.letters c with lasts | ⟨gone, clear⟩
  · obtain ⟨d, single, fold⟩ := List.map_eq_singleton_iff.1 lasts
    simp [losses, single, fold, lasts]
  · have none : losses lost (letter c) = 0 := List.countP_eq_zero.2 fun d hd => by simp [clear d hd]
    have one : losses lost [c] = 1 := by simp [losses, gone]
    rw [none, one, Nat.zero_add]
    exact List.countP_le_length

lemma losses_add_le (h : Cut (Spells letter) cs ds) :
    losses lost ds + cs.countP (¬ Lasts letter ·) ≤ losses lost cs := by
  induction cs generalizing ds with
  | nil =>
    rw [cut_nil.1 h]
    exact Nat.le_refl _
  | cons c cs ih =>
    obtain ⟨piece, rest, spells, others, rfl⟩ := cut_cons.1 h
    have here := losses_of_spells parts spells
    have after := ih others
    rw [← List.singleton_append, List.countP_append, losses_append, losses_append]
    omega

lemma stands_iff_lasts (h : Cut (Spells letter) cs ds) :
    Cut Stands cs ds ↔ ∀ c ∈ cs, Lasts letter c := by
  refine ⟨fun stands => ?_, stands_of_lasts h⟩
  have asked := losses_le_of_cut parts stands
  have found := losses_add_le parts h
  have none : cs.countP (¬ Lasts letter ·) = 0 := by omega
  simpa [List.countP_eq_zero] using none

end Counts

variable [Regex.Engine] {text : String}

lemma accepts_upper :
    (⟨text⟩ : Mask).accepts (upper text) = true ↔ Lasting upperLetter text := by
  rw [accepts_iff_cut, toList_upper]
  exact stands_iff_lasts parts_upper (spells_flatMap _ _)

lemma accepts_lower :
    (⟨text⟩ : Mask).accepts (lower text) = true ↔ Lasting lowerLetter text := by
  rw [accepts_iff_cut, toList_lower]
  exact stands_iff_lasts parts_lower (spells_lower _ _)

lemma accepts_self (text : String) : (⟨text⟩ : Mask).accepts text = true := by
  have still := spells_flatMap (fun c => [c]) text.toList
  rw [List.flatMap_singleton'] at still
  exact (accepts_iff_cut _ _).2 (stands_of_lasts still fun _ _ => rfl)

end LockRegistry.Mask
