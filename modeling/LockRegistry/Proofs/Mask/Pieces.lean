import LockRegistry.Proofs.Mask.Expression
import LockRegistry.Regex.Runner

/-! What a mask matches: the texts that can be cut into pieces, one for each of its characters. -/

namespace LockRegistry.Mask

open Text (Cut cut_nil cut_cons)

variable {cs : List Char} {raw : String} {m : Mask}

lemma cut_nil_of_runs (stars : ∀ c ∈ cs, c = runWildcard) : Cut Stands cs [] := by
  induction cs with
  | nil => exact cut_nil.2 rfl
  | cons c cs ih =>
    obtain rfl := stars c List.mem_cons_self
    exact cut_cons.2 ⟨[], [], trivial, ih fun d hd => stars d (List.mem_cons_of_mem _ hd), rfl⟩

-- The first star takes the whole text, and leaves nothing to the others.
lemma cut_of_runs (stars : ∀ c ∈ cs, c = runWildcard) (some : cs ≠ []) (text : List Char) :
    Cut Stands cs text := by
  obtain ⟨c, cs, rfl⟩ := List.exists_cons_of_ne_nil some
  obtain rfl := stars c List.mem_cons_self
  have others : Cut Stands cs [] :=
    cut_nil_of_runs fun d hd => stars d (List.mem_cons_of_mem _ hd)
  exact cut_cons.2 ⟨text, [], trivial, others, (List.append_nil text).symm⟩

def written (raw : String) : List Char :=
  if Text.trim raw = "" then [runWildcard] else (Text.trim raw).toList

lemma written_ne_nil (raw : String) : written raw ≠ [] := by
  unfold written
  split
  · exact List.cons_ne_nil _ _
  · rename_i full
    exact fun e => full (String.toList_eq_nil_iff.1 e)

section Engine

variable [Regex.Engine]

lemma accepts_iff_cut (m : Mask) (value : String) :
    m.accepts value = true ↔ Cut Stands m.pattern.toList value.toList := by
  unfold accepts regex?
  by_cases star : m.pattern = any.pattern
  · rw [if_pos star, star]
    exact iff_of_true rfl (cut_of_runs (fun _ => List.mem_singleton.1) (List.cons_ne_nil _ _) _)
  · rw [if_neg star]
    exact isMatch_source_iff m.pattern value

lemma ofString_eq_ok (compiled : ofString raw = .ok m) :
    m = any ∧ (∀ c ∈ written raw, c = runWildcard) ∨ m.pattern.toList = written raw := by
  unfold ofString at compiled
  dsimp only at compiled
  split at compiled
  · rename_i stars
    cases compiled
    refine .inl ⟨rfl, fun c hc => ?_⟩
    unfold written at hc
    split at hc
    · exact List.mem_singleton.1 hc
    · exact eq_of_beq (List.all_eq_true.1 stars c hc)
  · rename_i plain
    split at compiled
    · cases compiled
      have full : Text.trim raw ≠ "" := fun e => plain (by rw [e]; rfl)
      exact .inr (if_neg full).symm
    · cases compiled

lemma cut_pattern_iff (compiled : ofString raw = .ok m) (text : List Char) :
    Cut Stands m.pattern.toList text ↔ Cut Stands (written raw) text := by
  rcases ofString_eq_ok compiled with ⟨rfl, stars⟩ | same
  · have runs : Cut Stands any.pattern.toList text :=
      cut_of_runs (fun _ => List.mem_singleton.1) (List.cons_ne_nil _ _) _
    exact iff_of_true runs (cut_of_runs stars (written_ne_nil raw) _)
  · rw [same]

theorem accepts_iff_pieces (compiled : ofString raw = .ok m) (value : String) :
    m.accepts value = true ↔
      ∃ pieces, List.Forall₂ Stands (written raw) pieces ∧ pieces.flatten = value.toList := by
  rw [accepts_iff_cut, cut_pattern_iff compiled]
  exact Iff.rfl

end Engine

attribute [local instance] Regex.runner

theorem accepts_iff_pieces_kelvin : ofString " k*?. " = .ok ⟨"k*?."⟩ ∧
    (⟨"k*?."⟩ : Mask).accepts "\u212A\n\nx\n." = true := by
  have compiled : ofString " k*?. " = .ok ⟨"k*?."⟩ := rfl
  refine ⟨compiled, (accepts_iff_pieces compiled _).2
    ⟨[['\u212A'], ['\n', '\n', 'x'], ['\n'], ['.']], ?_, rfl⟩⟩
  exact .cons ⟨'\u212A', rfl, by decide⟩ (.cons trivial (.cons ⟨'\n', rfl⟩
    (.cons ⟨'.', rfl, rfl⟩ .nil)))

end LockRegistry.Mask
