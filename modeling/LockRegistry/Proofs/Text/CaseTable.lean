import LockRegistry.Identifier
import Mathlib.Tactic.Lemma

/-! A change of case is settled after one pass. For the tables this is a comparison of runs of code
points. -/

namespace LockRegistry.Text

structure Span where
  first : Nat
  last : Nat
  stride : Nat

namespace Span

def Has (s : Span) (n : Nat) : Prop := s.first ≤ n ∧ n ≤ s.last ∧ (n - s.first) % s.stride = 0

def single (n : Nat) : Span := ⟨n, n, 1⟩

-- One ends before the other begins, or they take every other code point and never the same.
def avoids (s t : Span) : Bool :=
  Nat.blt s.last t.first || Nat.blt t.last s.first ||
    (Nat.beq t.stride 2 && (Nat.beq s.stride 2 || Nat.beq s.first s.last) &&
      !Nat.beq (s.first % 2) (t.first % 2))

variable {s t : Span} {n : Nat}

lemma has_single : (single n).Has n := ⟨Nat.le_refl n, Nat.le_refl n, by simp [single]⟩

lemma not_has_of_avoids (h : s.avoids t = true) (hs : s.Has n) : ¬ t.Has n := by
  rintro ⟨ht, ht', even⟩
  obtain ⟨hs, hs', even'⟩ := hs
  simp only [avoids, Bool.or_eq_true, Bool.and_eq_true, Bool.not_eq_true', Nat.blt_eq,
    Nat.beq_eq] at h
  rcases h with (h | h) | ⟨⟨two, two'⟩, parity⟩
  · omega
  · omega
  · have odd := Nat.ne_of_beq_eq_false parity
    rw [two] at even
    rcases two' with two' | single
    · rw [two'] at even'
      omega
    · omega

end Span

namespace CaseRun

variable {r : CaseRun} {n m : Nat}

def source (r : CaseRun) : Span := ⟨r.first, r.last, r.stride⟩

def target (r : CaseRun) : Span :=
  ⟨(r.first + r.delta).toNat, (r.last + r.delta).toNat, r.stride⟩

lemma image?_eq_some : r.image? n = some m ↔ r.source.Has n ∧ m = (n + r.delta).toNat := by
  unfold image?
  split
  · rename_i within
    exact ⟨fun h => ⟨within, (Option.some.inj h).symm⟩, fun h => congrArg some h.2.symm⟩
  · rename_i beyond
    exact ⟨nofun, fun h => absurd h.1 beyond⟩

lemma image?_of_source (h : ¬ r.source.Has n) : r.image? n = none := if_neg h

lemma target_of_image? (h : r.image? n = some m) (ok : 0 ≤ r.first + r.delta) : r.target.Has m := by
  obtain ⟨⟨low, high, even⟩, rfl⟩ := image?_eq_some.1 h
  simp only [source] at low high even
  have shift : (n + r.delta).toNat - (r.first + r.delta).toNat = n - r.first := by omega
  refine ⟨?_, ?_, ?_⟩
  · simp only [target]
    omega
  · simp only [target]
    omega
  · simp only [target, shift, even]

end CaseRun

def sources (runs : List CaseRun) (long : List (Nat × List Nat)) : List Span :=
  runs.map (·.source) ++ long.map (.single ·.1)

-- A code that is no letter stands for zero.
def targets (runs : List CaseRun) (long : List (Nat × List Nat)) : List Span :=
  .single 0 :: runs.map (·.target) ++ (long.flatMap (·.2)).map .single

def marks : List Span :=
  blankRanges.map (fun r => ⟨r.1, r.2, 1⟩) ++ [runWildcard, oneWildcard].map (.single ·.toNat)

def settles (runs : List CaseRun) (long : List (Nat × List Nat)) : Bool :=
  (targets runs long).all fun t => (sources runs long ++ marks).all t.avoids

def wellFormed (runs : List CaseRun) (long : List (Nat × List Nat)) : Bool :=
  (runs.all fun r => decide (0 ≤ r.first + r.delta)) && long.all fun l => !l.2.isEmpty

lemma settles_upper : settles upperRuns upperLong = true := by decide +kernel

lemma settles_lower : settles lowerRuns lowerLong = true := by decide +kernel

lemma wellFormed_upper : wellFormed upperRuns upperLong = true := by decide +kernel

lemma wellFormed_lower : wellFormed lowerRuns lowerLong = true := by decide +kernel

section Tables

variable {runs : List CaseRun} {long : List (Nat × List Nat)} {c d : Char}

def Settled (runs : List CaseRun) (long : List (Nat × List Nat)) (c : Char) : Prop :=
  ∀ s ∈ sources runs long ++ marks, ¬ s.Has c.toNat

lemma source_mem (long : List (Nat × List Nat)) {r : CaseRun} (h : r ∈ runs) :
    r.source ∈ sources runs long := by
  simp only [sources, List.mem_append, List.mem_map]
  exact .inl ⟨r, h, rfl⟩

lemma target_mem (long : List (Nat × List Nat)) {r : CaseRun} (h : r ∈ runs) :
    r.target ∈ targets runs long := by
  simp only [targets, List.mem_append, List.mem_cons, List.mem_map]
  exact .inl (.inr ⟨r, h, rfl⟩)

lemma settled_of_target (ok : settles runs long = true) {t : Span} (ht : t ∈ targets runs long)
    (hc : t.Has c.toNat) : Settled runs long c := by
  intro s hs
  exact Span.not_has_of_avoids (List.all_eq_true.1 (List.all_eq_true.1 ok t ht) s hs) hc

lemma toNat_ofNat_of_valid {n : Nat} (h : n.isValidChar) : (Char.ofNat n).toNat = n := by
  rw [Char.ofNat, dif_pos h]
  rfl

lemma toNat_ofNat (n : Nat) : (Char.ofNat n).toNat = n ∨ (Char.ofNat n).toNat = 0 := by
  by_cases valid : n.isValidChar
  · exact .inl (toNat_ofNat_of_valid valid)
  · exact .inr (by rw [Char.ofNat, dif_neg valid]; rfl)

lemma settled_ofNat (ok : settles runs long = true) {t : Span} (ht : t ∈ targets runs long)
    {n : Nat} (hn : t.Has n) : Settled runs long (.ofNat n) := by
  rcases toNat_ofNat n with h | h
  · exact settled_of_target ok ht (h.symm ▸ hn)
  · exact settled_of_target ok List.mem_cons_self (h.symm ▸ Span.has_single)

lemma mapLetter_of_settled (h : Settled runs long c) : mapLetter runs long c = [c] := by
  have short : long.lookup c.toNat = none := by
    rw [List.lookup_eq_none_iff]
    intro p hp
    rw [bne_iff_ne]
    intro same
    have hs : Span.single p.1 ∈ sources runs long := by
      simp only [sources, List.mem_append, List.mem_map]
      exact .inr ⟨p, hp, rfl⟩
    apply h _ (List.mem_append_left _ hs)
    rw [same]
    exact Span.has_single
  have still : moveBy runs c.toNat = c.toNat := by
    have none : runs.findSome? (·.image? c.toNat) = none := by
      rw [List.findSome?_eq_none_iff]
      intro r hr
      exact CaseRun.image?_of_source (h _ (List.mem_append_left _ (source_mem long hr)))
    rw [moveBy, none]
    rfl
  rw [mapLetter, short, still, Char.ofNat_toNat]

lemma settled_of_mem (ok : settles runs long = true) (wf : wellFormed runs long = true)
    (h : d ∈ mapLetter runs long c) : mapLetter runs long c = [c] ∨ Settled runs long d := by
  simp only [wellFormed, Bool.and_eq_true, List.all_eq_true, decide_eq_true_eq] at wf
  unfold mapLetter at h ⊢
  split at h
  · rename_i codes found
    obtain ⟨n, hn, rfl⟩ := List.mem_map.1 h
    obtain ⟨l, l', split, -⟩ := List.lookup_eq_some_iff.1 found
    have hm : (c.toNat, codes) ∈ long := by simp [split]
    have ht : Span.single n ∈ targets runs long := by
      simp only [targets, List.mem_append, List.mem_map, List.mem_flatMap]
      exact .inr ⟨n, ⟨_, hm, hn⟩, rfl⟩
    exact .inr (settled_ofNat ok ht Span.has_single)
  · obtain rfl := List.mem_singleton.1 h
    unfold moveBy
    cases found : runs.findSome? (·.image? c.toNat) with
    | none => exact .inl (by rw [Option.getD_none, Char.ofNat_toNat])
    | some n =>
      obtain ⟨r, hr, hn⟩ := List.exists_of_findSome?_eq_some found
      exact .inr (settled_ofNat ok (target_mem long hr) (CaseRun.target_of_image? hn (wf.1 r hr)))

lemma mapLetter_ne_nil (wf : wellFormed runs long = true) : mapLetter runs long c ≠ [] := by
  simp only [wellFormed, Bool.and_eq_true, List.all_eq_true] at wf
  unfold mapLetter
  split
  · rename_i codes found
    obtain ⟨l, l', split, -⟩ := List.lookup_eq_some_iff.1 found
    have full := wf.2 (c.toNat, codes) (by simp [split])
    intro none
    rw [List.map_eq_nil_iff.1 none] at full
    cases full
  · exact List.cons_ne_nil _ _

lemma Settled.isBlank (h : Settled runs long c) : isBlank c = false := by
  rw [Bool.eq_false_iff]
  intro blank
  obtain ⟨r, hr, low, high⟩ := inRanges_iff.1 blank
  have hs : (⟨r.1, r.2, 1⟩ : Span) ∈ marks := by
    simp only [marks, List.mem_append, List.mem_map]
    exact .inl ⟨r, hr, rfl⟩
  exact h _ (List.mem_append_right _ hs) ⟨low, high, Nat.mod_one _⟩

lemma Settled.isWildcard (h : Settled runs long c) : isWildcard c = false := by
  have avoids (w : Char) (hw : w ∈ [runWildcard, oneWildcard]) : c ≠ w := by
    rintro rfl
    have hs : Span.single c.toNat ∈ marks := by
      simp only [marks, List.mem_append, List.mem_map]
      exact .inr ⟨c, hw, rfl⟩
    exact h _ (List.mem_append_right _ hs) Span.has_single
  simp [LockRegistry.isWildcard, avoids runWildcard (by simp), avoids oneWildcard (by simp)]

end Tables

structure Respells (c : Char) (cs : List Char) : Prop where
  ne_nil : cs ≠ []
  isBlank : isBlank c = false → ∀ d ∈ cs, isBlank d = false
  wildcards : cs.countP isWildcard = [c].countP isWildcard

structure Tabled (letter : Char → List Char) (runs : List CaseRun)
    (long : List (Nat × List Nat)) : Prop where
  ne_nil : ∀ c, letter c ≠ []
  settled : ∀ c, ∀ d ∈ letter c, letter c = [c] ∨ Settled runs long d
  keeps : ∀ c, Settled runs long c → letter c = [c]
  wildcards : letter runWildcard = [runWildcard] ∧ letter oneWildcard = [oneWildcard]

namespace Tabled

variable {letter : Char → List Char} {runs : List CaseRun} {long : List (Nat × List Nat)}
  {c d : Char}

lemma eq_self (h : Tabled letter runs long) (hd : d ∈ letter c) : letter d = [d] := by
  rcases h.settled c d hd with same | settled
  · rw [same, List.mem_singleton] at hd
    rw [hd, same]
  · exact h.keeps d settled

lemma respells (h : Tabled letter runs long) (c : Char) : Respells c (letter c) := by
  by_cases same : letter c = [c]
  · rw [same]
    exact ⟨List.cons_ne_nil _ _, fun blank d hd => List.mem_singleton.1 hd ▸ blank, rfl⟩
  · have settled : ∀ d ∈ letter c, Settled runs long d := fun d hd =>
      (h.settled c d hd).resolve_left same
    have own : isWildcard c = false := by
      simp only [isWildcard, Bool.or_eq_false_iff, beq_eq_false_iff_ne]
      exact ⟨fun star => same (star ▸ h.wildcards.1), fun mark => same (mark ▸ h.wildcards.2)⟩
    refine ⟨h.ne_nil c, fun _ d hd => (settled d hd).isBlank, ?_⟩
    rw [List.countP_eq_zero.2 fun d hd => Bool.eq_false_iff.1 (settled d hd).isWildcard]
    simp [own]

lemma of_ascii {ascii : Char → Char} {s t : Span} (ok : settles runs long = true)
    (wf : wellFormed runs long = true) (hs : s ∈ sources runs long) (ht : t ∈ targets runs long)
    (short : ∀ n < 0x80, ascii (.ofNat n) = .ofNat n ∨ s.Has n ∧ t.Has (ascii (.ofNat n)).toNat)
    (star : ascii runWildcard = runWildcard) (mark : ascii oneWildcard = oneWildcard) :
    Tabled (fun c => if c.toNat < 0x80 then [ascii c] else mapLetter runs long c) runs long := by
  refine ⟨fun c => ?_, fun c d hd => ?_, fun c hc => ?_, ?_, ?_⟩
  · split
    · exact List.cons_ne_nil _ _
    · exact mapLetter_ne_nil wf
  · split at hd
    · rename_i small
      obtain rfl := List.mem_singleton.1 hd
      rw [if_pos small]
      have hn := short c.toNat small
      rw [Char.ofNat_toNat] at hn
      rcases hn with same | ⟨-, has⟩
      · exact .inl (by rw [same])
      · exact .inr (settled_of_target ok ht has)
    · rename_i large
      rw [if_neg large]
      exact settled_of_mem ok wf hd
  · split
    · rename_i small
      have hn := short c.toNat small
      rw [Char.ofNat_toNat] at hn
      rcases hn with same | ⟨has, -⟩
      · rw [same]
      · exact absurd has (hc s (List.mem_append_left _ hs))
    · exact mapLetter_of_settled hc
  · rw [if_pos (by decide), star]
  · rw [if_pos (by decide), mark]

end Tabled

lemma ascii_toUpper : ∀ n < 0x80, (Char.ofNat n).toUpper = .ofNat n ∨
    (⟨0x61, 0x7A, 1⟩ : Span).Has n ∧ (⟨0x41, 0x5A, 1⟩ : Span).Has (Char.ofNat n).toUpper.toNat := by
  unfold Span.Has
  decide

lemma ascii_toLower : ∀ n < 0x80, (Char.ofNat n).toLower = .ofNat n ∨
    (⟨0x41, 0x5A, 1⟩ : Span).Has n ∧ (⟨0x61, 0x7A, 1⟩ : Span).Has (Char.ofNat n).toLower.toNat := by
  unfold Span.Has
  decide

lemma tabled_upper : Tabled upperLetter upperRuns upperLong := by
  have first : (⟨0x61, 0x7A, 1, -32⟩ : CaseRun) ∈ upperRuns := by
    unfold upperRuns
    exact List.mem_cons_self
  exact .of_ascii settles_upper wellFormed_upper (source_mem _ first) (target_mem _ first)
    ascii_toUpper rfl rfl

lemma tabled_lower : Tabled lowerLetter lowerRuns lowerLong := by
  have first : (⟨0x41, 0x5A, 1, 32⟩ : CaseRun) ∈ lowerRuns := by
    unfold lowerRuns
    exact List.mem_cons_self
  exact .of_ascii settles_lower wellFormed_lower (source_mem _ first) (target_mem _ first)
    ascii_toLower rfl rfl

end LockRegistry.Text
