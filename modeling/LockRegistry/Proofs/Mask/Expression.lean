import LockRegistry.Mask
import LockRegistry.Proofs.Text.Cut
import LockRegistry.Regex.Runner

/-! The regular expression that is written for a pattern, and what it finds. -/

namespace LockRegistry.Mask

open Regex (Atom Covers Expression Item)
open Text (Cut cut_nil cut_cons)

section Semantics

variable {c : Char} {cs text : List Char}

def item (c : Char) : Item :=
  if c = runWildcard then ⟨.any, true⟩
  else if c = oneWildcard then ⟨.any, false⟩
  else ⟨.char c, false⟩

def expression (pattern : String) : Expression where
  flags := ⟨true, true⟩
  fromStart := true
  toEnd := true
  items := pattern.toList.map item

def Stands (c : Char) (piece : List Char) : Prop :=
  if c = runWildcard then True
  else if c = oneWildcard then ∃ d, piece = [d]
  else ∃ d, piece = [d] ∧ Text.sameLetter d c = true

lemma covers_starred {p : List Item} :
    Covers ⟨true, true⟩ (⟨.any, true⟩ :: p) text ↔
      ∃ piece rest, Covers ⟨true, true⟩ p rest ∧ text = piece ++ rest := by
  constructor
  · intro h
    induction text with
    | nil =>
      cases h with
      | skip rest => exact ⟨[], [], rest, rfl⟩
    | cons c text ih =>
      cases h with
      | skip rest => exact ⟨[], c :: text, rest, rfl⟩
      | again _ again =>
        obtain ⟨piece, rest, covers, rfl⟩ := ih again
        exact ⟨c :: piece, rest, covers, rfl⟩
  · rintro ⟨piece, rest, covers, rfl⟩
    induction piece with
    | nil => exact .skip covers
    | cons c piece ih => exact .again (.inl rfl) ih

lemma covers_once {a : Atom} {p : List Item} :
    Covers ⟨true, true⟩ (⟨a, false⟩ :: p) text ↔
      ∃ c rest, a.Takes ⟨true, true⟩ c ∧ Covers ⟨true, true⟩ p rest ∧ text = c :: rest := by
  constructor
  · rintro (_ | ⟨takes, rest⟩)
    exact ⟨_, _, takes, rest, rfl⟩
  · rintro ⟨c, rest, takes, covers, rfl⟩
    exact .once takes covers

lemma takes_char {d : Char} :
    (Atom.char d).Takes ⟨true, true⟩ c ↔ Text.sameLetter c d = true :=
  ⟨fun | .inl same => same ▸ Text.sameLetter_refl c | .inr same => same.2,
    fun same => .inr ⟨rfl, same⟩⟩

lemma covers_iff_cut : Covers ⟨true, true⟩ (cs.map item) text ↔ Cut Stands cs text := by
  induction cs generalizing text with
  | nil =>
    rw [cut_nil]
    refine ⟨fun | .nil => rfl, ?_⟩
    rintro rfl
    exact .nil
  | cons c cs ih =>
    rw [List.map_cons, item, cut_cons]
    simp only [Stands]
    split
    · simp only [covers_starred, ih, true_and]
    · split
      · simp only [covers_once, ih]
        constructor
        · rintro ⟨d, rest, -, cut, rfl⟩
          exact ⟨[d], rest, ⟨d, rfl⟩, cut, rfl⟩
        · rintro ⟨_, rest, ⟨d, rfl⟩, cut, rfl⟩
          exact ⟨d, rest, .inl rfl, cut, rfl⟩
      · simp only [covers_once, takes_char, ih]
        constructor
        · rintro ⟨d, rest, same, cut, rfl⟩
          exact ⟨[d], rest, ⟨d, rfl, same⟩, cut, rfl⟩
        · rintro ⟨_, rest, ⟨d, rfl, same⟩, cut, rfl⟩
          exact ⟨d, rest, same, cut, rfl⟩

lemma finds_expression (pattern : String) :
    (expression pattern).Finds text ↔ Cut Stands pattern.toList text := by
  rw [← covers_iff_cut]
  constructor
  · rintro ⟨before, piece, after, rfl, start, stop, covers⟩
    rw [start rfl, stop rfl, List.nil_append, List.append_nil]
    exact covers
  · exact fun covers => ⟨[], text, [], (List.append_nil text).symm, fun _ => rfl, fun _ => rfl,
      covers⟩

end Semantics

section Engine

variable [Regex.Engine]

lemma piece_eq (c : Char) : piece c = (item c).text Regex.escape := by
  unfold piece item
  split
  · rfl
  · split
    · rfl
    · exact (List.append_nil _).symm

lemma source_eq (pattern : String) : source pattern = (expression pattern).text Regex.escape := by
  rw [source, Expression.text, expression, List.flatMap_map, ← funext piece_eq, ← String.toList_inj]
  simp [Regex.Flags.text]

lemma isMatch_source_iff (pattern value : String) :
    Regex.isMatch (source pattern) value = true ↔ Cut Stands pattern.toList value.toList := by
  rw [source_eq, Regex.isMatch_iff, finds_expression]

lemma compile_source_of_short {pattern : String} (short : pattern.length ≤ 128) :
    Regex.compile (source pattern) = .ok () := by
  rw [source_eq]
  refine Regex.compile_short _ ?_
  rwa [expression, List.length_map, String.length_toList]

def CompilesByCount : Prop :=
  ∀ p q : String, p.toList.countP isWildcard = q.toList.countP isWildcard →
    Regex.compile (source p) = .ok () → Regex.compile (source q) = .ok ()

end Engine

attribute [local instance] Regex.runner

lemma points_expression (pattern : String) :
    Regex.Runner.points (expression pattern).items = pattern.toList.countP isWildcard := by
  rw [Regex.Runner.points, expression, List.countP_map]
  refine List.countP_congr fun c _ => ?_
  rw [Function.comp_apply, decide_eq_true_iff, item, isWildcard, Bool.or_eq_true, beq_iff_eq,
    beq_iff_eq]
  split
  · rename_i run
    exact iff_of_true rfl (.inl run)
  · rename_i many
    split
    · rename_i one
      exact iff_of_true rfl (.inr one)
    · rename_i other
      exact iff_of_false nofun (not_or.2 ⟨many, other⟩)

lemma compilesByCount_runner : CompilesByCount := fun p q same compiles => by
  rw [source_eq] at compiles ⊢
  have few := (Regex.Runner.compile_text _).1 compiles
  rw [points_expression, same, ← points_expression] at few
  exact (Regex.Runner.compile_text _).2 few

end LockRegistry.Mask
