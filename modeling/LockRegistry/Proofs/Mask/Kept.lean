import LockRegistry.Proofs.Identifier
import LockRegistry.Proofs.Mask.Expression

namespace LockRegistry

namespace Mask

variable {raw : String} {m : Mask}

def isStars (raw : String) : Bool := (Text.trim raw).toList.all (· == runWildcard)

def kept (raw : String) : String := if isStars raw then "*" else Text.trim raw

def keptOption (raw : Option String) : Mask := raw.elim any fun raw => ⟨kept raw⟩

lemma trim_kept (raw : String) : Text.trim (kept raw) = kept raw := by
  unfold kept
  split
  · rfl
  · exact Text.trim_trim raw

lemma kept_of_takes {f : Field} {raw : String} (h : f.Takes raw) : kept raw = Text.trim raw := by
  obtain ⟨full, plain, -⟩ := h
  unfold kept
  refine if_neg fun stars => full ?_
  rw [← String.toList_eq_nil_iff, List.eq_nil_iff_forall_not_mem]
  intro c hc
  have star : c = runWildcard := eq_of_beq (List.all_eq_true.1 stars c hc)
  have wild := List.any_eq_false.1 plain c hc
  rw [star] at wild
  exact wild rfl

section Engine

variable [Regex.Engine]

def Takes (raw : String) : Prop :=
  isStars raw = true ∨ (Regex.compile (source (Text.trim raw))).isOk = true

instance (raw : String) : Decidable (Takes raw) := inferInstanceAs (Decidable (_ ∨ _))

lemma ofString_of_takes (h : Takes raw) : ofString raw = .ok ⟨kept raw⟩ := by
  unfold ofString kept isStars
  dsimp only
  by_cases all : (Text.trim raw).toList.all (· == runWildcard) = true
  · rw [if_pos all, if_pos all]
    rfl
  · have compiles := h.resolve_left all
    rw [if_neg all, if_neg all]
    split
    · rfl
    · rename_i refused
      rw [refused] at compiles
      cases compiles

lemma takes_of_ofString (h : ofString raw = .ok m) : Takes raw := by
  unfold ofString at h
  dsimp only at h
  split at h
  · rename_i stars
    exact .inl stars
  · split at h
    · rename_i compiles
      exact .inr (by rw [compiles]; rfl)
    · cases h

lemma ofString_congr {raw' : String} (same : Text.trim raw = Text.trim raw') :
    ofString raw = ofString raw' := by
  rw [ofString, ofString, same]

lemma ofString_kept (raw : String) : ofString (kept raw) = ofString raw := by
  by_cases stars : isStars raw = true
  · rw [kept, if_pos stars, ofString_of_takes (.inl stars), kept, if_pos stars]
    rfl
  · rw [kept, if_neg stars, ofString_congr (Text.trim_trim raw)]

lemma eq_kept_of_ofString (h : ofString raw = .ok m) : m = ⟨kept raw⟩ :=
  Except.ok.inj (h.symm.trans (ofString_of_takes (takes_of_ofString h)))

lemma ofString_pattern (h : ofString raw = .ok m) : ofString m.pattern = .ok m := by
  rw [eq_kept_of_ofString h, ofString_kept, h, eq_kept_of_ofString h]

def TakesOption (raw : Option String) : Prop := ∀ text ∈ raw, Takes text

instance (raw : Option String) : Decidable (TakesOption raw) :=
  inferInstanceAs (Decidable (∀ text ∈ raw, _))

lemma ofOption_of_takes {raw : Option String} (h : TakesOption raw) :
    ofOption raw = .ok (keptOption raw) := by
  cases raw with
  | none => rfl
  | some raw =>
    have takes : Takes raw := h raw rfl
    rw [ofOption, ofString_of_takes takes]
    rfl

lemma takes_of_ofOption {raw : Option String} (h : ofOption raw = .ok m) : TakesOption raw := by
  rintro text ⟨⟩
  exact takes_of_ofString h

lemma takes_of_field {f : Field} {raw : String} (h : f.Takes raw) : Takes raw := by
  have limit : f.limit ≤ 128 := by cases f <;> decide
  refine .inr ?_
  rw [compile_source_of_short (Nat.le_trans h.2.2 limit)]
  rfl

lemma compile_pattern (h : ofString raw = .ok m) : Regex.compile (source m.pattern) = .ok () := by
  unfold ofString at h
  dsimp only at h
  split at h
  · cases h
    exact compile_source_of_short (by decide)
  · split at h
    · rename_i compiles
      cases h
      exact compiles
    · cases h

lemma exists_ofString {text : String} (byCount : CompilesByCount) (made : ofString raw = .ok m)
    (trimmed : Text.trim text = text)
    (same : m.pattern.toList.countP isWildcard = text.toList.countP isWildcard) :
    ∃ m, ofString text = .ok m := by
  refine ⟨_, ofString_of_takes (.inr ?_)⟩
  rw [trimmed, byCount _ _ same (compile_pattern made)]
  rfl

lemma takes_of_plain (byCount : CompilesByCount)
    (plain : LockRegistry.hasWildcard (Text.trim raw) = false) : Takes raw := by
  have none : (Text.trim raw).toList.countP isWildcard = 0 := by
    refine List.countP_eq_zero.2 fun c mem => ?_
    exact List.any_eq_false.1 plain c mem
  refine .inr ?_
  rw [byCount "" _ none.symm (compile_source_of_short (by decide))]
  rfl

lemma trim_pattern (h : ofString raw = .ok m) : Text.trim m.pattern = m.pattern := by
  obtain rfl := eq_kept_of_ofString h
  dsimp only
  exact trim_kept raw

lemma exists_ofString_upper (byCount : CompilesByCount) (made : ofString raw = .ok m) :
    ∃ m', ofString (Text.upper m.pattern) = .ok m' := by
  refine exists_ofString byCount made (Text.trim_upper (trim_pattern made)) ?_
  rw [Text.toList_upper, (Text.recased_upper _).countP_eq]

lemma exists_ofString_lower (byCount : CompilesByCount) (made : ofString raw = .ok m) :
    ∃ m', ofString (Text.lower m.pattern) = .ok m' := by
  refine exists_ofString byCount made (Text.trim_lower (trim_pattern made)) ?_
  rw [Text.toList_lower, (Text.recased_lower _ _).countP_eq]

lemma ofOption_of_field {f : Field} {raw : String} (h : f.Takes raw) :
    ofOption (some raw) = .ok ⟨Text.trim raw⟩ := by
  rw [ofOption, ofString_of_takes (takes_of_field h), kept_of_takes h]

end Engine

end Mask

end LockRegistry
