import LockRegistry.Proofs.Text.Case

/-! A change of case and simple folding. The letters that lose their folded form lose it for good:
they are made into letters with forms that no letter ever loses. -/

namespace LockRegistry.Text

namespace Span

variable {s t : Span} {n : Nat}

def has (s : Span) (n : Nat) : Bool :=
  Nat.ble n s.last && Nat.ble s.first n && Nat.beq ((n - s.first) % s.stride) 0

lemma has_iff : s.has n = true ↔ s.Has n := by
  simp only [has, Has, Bool.and_eq_true, Nat.ble_eq, Nat.beq_eq]
  exact ⟨fun ⟨⟨high, low⟩, even⟩ => ⟨low, high, even⟩, fun ⟨low, high, even⟩ => ⟨⟨high, low⟩, even⟩⟩

def within (s t : Span) : Bool :=
  t.has s.first && Nat.ble s.last t.last &&
    (Nat.beq s.first s.last || Nat.beq (s.stride % t.stride) 0)

lemma has_of_within (h : s.within t = true) (hn : s.Has n) : t.Has n := by
  simp only [within, Bool.and_eq_true, Bool.or_eq_true, Nat.ble_eq, Nat.beq_eq, has_iff] at h
  obtain ⟨⟨⟨low, -, start⟩, high⟩, steps⟩ := h
  obtain ⟨hn, hn', even⟩ := hn
  refine ⟨Nat.le_trans low hn, Nat.le_trans hn' high, ?_⟩
  have onward : (n - s.first) % t.stride = 0 := by
    rcases steps with single | steps
    · have same : n - s.first = 0 := by omega
      rw [same, Nat.zero_mod]
    · exact Nat.mod_eq_zero_of_dvd
        (Nat.dvd_trans (Nat.dvd_of_mod_eq_zero steps) (Nat.dvd_of_mod_eq_zero even))
  have split : n - t.first = (n - s.first) + (s.first - t.first) := by omega
  rw [split, Nat.add_mod, onward, start, Nat.zero_mod]

def isValid (s : Span) : Bool :=
  Nat.blt s.last 0xD800 || (Nat.blt 0xDFFF s.first && Nat.blt s.last 0x110000)

lemma isValidChar (h : s.isValid = true) (hn : s.Has n) : n.isValidChar := by
  simp only [isValid, Bool.or_eq_true, Bool.and_eq_true, Nat.blt_eq] at h
  obtain ⟨low, high, -⟩ := hn
  rcases h with h | ⟨above, below⟩
  · exact .inl (by omega)
  · exact .inr ⟨by omega, by omega⟩

def points (s : Span) : List Nat :=
  List.range' s.first ((s.last - s.first) / s.stride + 1) s.stride

lemma mem_points (h : s.Has n) : n ∈ s.points := by
  obtain ⟨low, high, even⟩ := h
  rw [points, List.mem_range']
  refine ⟨(n - s.first) / s.stride, ?_, ?_⟩
  · exact Nat.lt_succ_of_le (Nat.div_le_div_right (by omega))
  · rw [Nat.mul_div_cancel' (Nat.dvd_of_mod_eq_zero even)]
    omega

end Span

section Moves

variable {runs : List CaseRun} {r : CaseRun} {s : Span} {δ : Int} {n m : Nat}

lemma moveBy_cons_of_has (h : r.source.Has n) :
    moveBy (r :: runs) n = (n + r.delta).toNat := by
  rw [moveBy, List.findSome?_cons, CaseRun.image?_eq_some.2 ⟨h, rfl⟩]
  rfl

lemma moveBy_cons_of_not_has (h : ¬ r.source.Has n) : moveBy (r :: runs) n = moveBy runs n := by
  rw [moveBy, List.findSome?_cons, CaseRun.image?_of_source h]
  rfl

def move : List CaseRun → Nat → Nat
  | [], n => n
  | r :: runs, n => bif r.source.has n then (n + r.delta).toNat else move runs n

lemma move_eq_moveBy (runs : List CaseRun) (n : Nat) : move runs n = moveBy runs n := by
  induction runs with
  | nil => rfl
  | cons r runs ih =>
    rw [move]
    cases inside : r.source.has n with
    | true => rw [moveBy_cons_of_has (Span.has_iff.1 inside), cond_true]
    | false =>
      have outside : ¬ r.source.Has n := by rw [← Span.has_iff, inside]; exact Bool.false_ne_true
      rw [moveBy_cons_of_not_has outside, cond_false, ih]

-- How far the runs move the code points of a span, if they move them all by one distance.
def shift? : List CaseRun → Span → Option Int
  | [], _ => some 0
  | r :: runs, s =>
    bif s.avoids r.source then shift? runs s else bif s.within r.source then some r.delta else none

lemma moveBy_of_shift? (h : shift? runs s = some δ) (hn : s.Has n) :
    moveBy runs n = (n + δ).toNat := by
  induction runs with
  | nil =>
    cases h
    simp [moveBy]
  | cons r runs ih =>
    rw [shift?] at h
    cases apart : s.avoids r.source with
    | true =>
      rw [apart] at h
      rw [moveBy_cons_of_not_has (Span.not_has_of_avoids apart hn)]
      exact ih h
    | false =>
      rw [apart] at h
      cases inside : s.within r.source with
      | true =>
        rw [inside] at h
        cases h
        exact moveBy_cons_of_has (Span.has_of_within inside hn)
      | false =>
        rw [inside] at h
        cases h

end Moves

lemma ascii_fold : ∀ n < 0x80, (Char.ofNat n).toLower = .ofNat (move foldRuns n) := by
  decide +kernel

lemma valid_foldRuns :
    (foldRuns.all fun r => r.target.isValid && decide (0 ≤ r.first + r.delta)) = true := by
  decide +kernel

lemma fold_eq (c : Char) : fold c = .ofNat (move foldRuns c.toNat) := by
  unfold fold
  split
  · rename_i small
    have same := ascii_fold c.toNat small
    rwa [Char.ofNat_toNat] at same
  · rw [move_eq_moveBy]

lemma toNat_fold (c : Char) : (fold c).toNat = move foldRuns c.toNat := by
  rw [fold_eq]
  refine toNat_ofNat_of_valid ?_
  rw [move_eq_moveBy, moveBy]
  cases found : foldRuns.findSome? (·.image? c.toNat) with
  | none => exact c.valid
  | some m =>
    obtain ⟨r, hr, image⟩ := List.exists_of_findSome?_eq_some found
    have valid := List.all_eq_true.1 valid_foldRuns r hr
    rw [Bool.and_eq_true, decide_eq_true_eq] at valid
    exact Span.isValidChar valid.1 (CaseRun.target_of_image? image valid.2)

def Lasts (letter : Char → List Char) (c : Char) : Prop := (letter c).map fold = [fold c]

instance (letter : Char → List Char) (c : Char) : Decidable (Lasts letter c) :=
  inferInstanceAs (Decidable (_ = _))

def Lasting (letter : Char → List Char) (text : String) : Prop := ∀ c ∈ text.toList, Lasts letter c

instance (letter : Char → List Char) (text : String) : Decidable (Lasting letter text) :=
  List.decidableBAll (Lasts letter) text.toList

def CaseRun.keepsFold (r : CaseRun) : Bool :=
  r.target.isValid && match shift? foldRuns r.source, shift? foldRuns r.target with
    | some a, some b => a == r.delta + b
    | _, _ => false

def CaseRun.spelledOut (r : CaseRun) : List (Nat × List Nat) :=
  r.source.points.map fun (n : Nat) => (n, [(n + r.delta).toNat])

def form (n : Nat) : Nat := move foldRuns n

def areValid (codes : List Nat) : Bool := codes.all fun m => (Span.single m).isValid

def keepsForm (e : Nat × List Nat) : Bool := areValid e.2 && e.2.map form == [form e.1]

def suspects (runs : List CaseRun) (long : List (Nat × List Nat)) : List (Nat × List Nat) :=
  long ++ (runs.filter fun (r : CaseRun) => !r.keepsFold).flatMap (·.spelledOut)

def strays (runs : List CaseRun) (long : List (Nat × List Nat)) : List (Nat × List Nat) :=
  (suspects runs long).filter (!keepsForm ·)

def isLost (strays : List (Nat × List Nat)) (n : Nat) : Bool := strays.any (Nat.beq n <| form ·.1)

-- A form that is lost belongs to no wildcard, and to nothing that such a letter is made into.
def parted (strays : List (Nat × List Nat)) : Bool :=
  !isLost strays (form runWildcard.toNat) && !isLost strays (form oneWildcard.toNat) &&
    strays.all fun e => areValid e.2 && e.2.all fun m => !isLost strays (form m)

lemma parted_upper : parted (strays upperRuns upperLong) = true := by decide +kernel

lemma parted_lower : parted (strays lowerRuns lowerLong) = true := by decide +kernel

section Tables

variable {runs : List CaseRun} {long : List (Nat × List Nat)} {r : CaseRun} {c : Char} {n m : Nat}

lemma form_toNat (c : Char) : form c.toNat = (fold c).toNat := (toNat_fold c).symm

lemma toNat_of_areValid {codes : List Nat} (h : areValid codes = true) (hm : m ∈ codes) :
    (Char.ofNat m).toNat = m :=
  toNat_ofNat_of_valid (Span.isValidChar (List.all_eq_true.1 h m hm) Span.has_single)

lemma lasts_of_form {letter : Char → List Char} {codes : List Nat}
    (valid : ∀ m ∈ codes, (Char.ofNat m).toNat = m) (same : codes.map form = [form c.toNat])
    (h : letter c = codes.map .ofNat) : Lasts letter c := by
  have folded : ∀ m ∈ codes, (fold ∘ Char.ofNat) m = (Char.ofNat ∘ form) m := by
    intro m hm
    rw [Function.comp, fold_eq, valid m hm]
    rfl
  rw [Lasts, h, List.map_map, List.map_congr_left folded, ← List.map_map, same, fold_eq]
  rfl

lemma CaseRun.form_image (keeps : r.keepsFold = true) (ok : 0 ≤ r.first + r.delta)
    (h : r.image? n = some m) : (Char.ofNat m).toNat = m ∧ form m = form n := by
  have target := target_of_image? h ok
  obtain ⟨source, moved⟩ := image?_eq_some.1 h
  rw [keepsFold, Bool.and_eq_true] at keeps
  obtain ⟨valid, keeps⟩ := keeps
  refine ⟨toNat_ofNat_of_valid (Span.isValidChar valid target), ?_⟩
  split at keeps
  · rename_i a b ha hb
    have shifts : a = r.delta + b := eq_of_beq keeps
    have low : r.first ≤ n := source.1
    rw [form, form, move_eq_moveBy, move_eq_moveBy, moveBy_of_shift? ha source,
      moveBy_of_shift? hb target]
    omega
  · cases keeps

lemma CaseRun.mem_spelledOut (h : r.image? n = some m) : (n, [m]) ∈ r.spelledOut := by
  obtain ⟨source, rfl⟩ := image?_eq_some.1 h
  exact List.mem_map.2 ⟨n, Span.mem_points source, rfl⟩

lemma lasts_or_stray_of_mem {codes : List Nat}
    (listed : (c.toNat, codes) ∈ suspects runs long)
    (spelled : mapLetter runs long c = codes.map .ofNat) :
    Lasts (mapLetter runs long) c ∨
      ∃ codes, (c.toNat, codes) ∈ strays runs long ∧ mapLetter runs long c = codes.map .ofNat := by
  cases keeps : keepsForm (c.toNat, codes) with
  | true =>
    rw [keepsForm, Bool.and_eq_true] at keeps
    exact .inl (lasts_of_form (fun m => toNat_of_areValid keeps.1) (eq_of_beq keeps.2) spelled)
  | false => exact .inr ⟨codes, List.mem_filter.2 ⟨listed, by rw [keeps]; rfl⟩, spelled⟩

lemma lasts_or_stray (wf : wellFormed runs long = true) (c : Char) :
    Lasts (mapLetter runs long) c ∨
      ∃ codes, (c.toNat, codes) ∈ strays runs long ∧ mapLetter runs long c = codes.map .ofNat := by
  simp only [wellFormed, Bool.and_eq_true, List.all_eq_true, decide_eq_true_eq] at wf
  cases short : long.lookup c.toNat with
  | some codes =>
    obtain ⟨l, l', split, -⟩ := List.lookup_eq_some_iff.1 short
    have listed : (c.toNat, codes) ∈ long := by simp [split]
    exact lasts_or_stray_of_mem (List.mem_append_left _ listed) (by rw [mapLetter, short])
  | none =>
    have spelled (m : Nat) (h : moveBy runs c.toNat = m) :
        mapLetter runs long c = [m].map .ofNat := by rw [mapLetter, short, h]; rfl
    cases found : runs.findSome? (·.image? c.toNat) with
    | none =>
      have still : moveBy runs c.toNat = c.toNat := by rw [moveBy, found]; rfl
      exact .inl (lasts_of_form (fun m hm => by
        rw [List.mem_singleton.1 hm, Char.ofNat_toNat]) rfl (spelled _ still))
    | some m =>
      have moved : moveBy runs c.toNat = m := by rw [moveBy, found]; rfl
      obtain ⟨r, hr, image⟩ := List.exists_of_findSome?_eq_some found
      cases keeps : r.keepsFold with
      | true =>
        obtain ⟨valid, same⟩ := CaseRun.form_image keeps (wf.1 r hr) image
        refine .inl (lasts_of_form (fun m' hm => ?_) ?_ (spelled m moved))
        · rwa [List.mem_singleton.1 hm]
        · rw [List.map_singleton, same]
      | false =>
        refine lasts_or_stray_of_mem (List.mem_append_right _ ?_) (spelled m moved)
        exact List.mem_flatMap.2 ⟨r, List.mem_filter.2 ⟨hr, by rw [keeps]; rfl⟩,
          CaseRun.mem_spelledOut image⟩

end Tables

structure Parts (letter : Char → List Char) (lost : Char → Bool) : Prop where
  letters : ∀ c, Lasts letter c ∨ lost (fold c) = true ∧ ∀ d ∈ letter c, lost (fold d) = false
  wildcards : ∀ c, isWildcard c = true → lost (fold c) = false

lemma parts_of_tables {ascii : Char → Char} {runs : List CaseRun} {long : List (Nat × List Nat)}
    (wf : wellFormed runs long = true) (ok : parted (strays runs long) = true)
    (short : ∀ n < 0x80, fold (ascii (.ofNat n)) = fold (.ofNat n)) :
    Parts (fun c => if c.toNat < 0x80 then [ascii c] else mapLetter runs long c)
      fun d => isLost (strays runs long) d.toNat := by
  simp only [parted, Bool.and_eq_true, Bool.not_eq_true', List.all_eq_true] at ok
  obtain ⟨⟨run, one⟩, apart⟩ := ok
  refine ⟨fun c => ?_, fun c hc => ?_⟩
  · by_cases small : c.toNat < 0x80
    · have same := short c.toNat small
      rw [Char.ofNat_toNat] at same
      exact .inl (by rw [Lasts, if_pos small, List.map_singleton, same])
    · simp only [Lasts, if_neg small]
      rcases lasts_or_stray wf c with lasts | ⟨codes, stray, spelled⟩
      · exact .inl lasts
      · obtain ⟨valid, clear⟩ := apart _ stray
        refine .inr ⟨List.any_eq_true.2 ⟨_, stray, ?_⟩, fun d hd => ?_⟩
        · rw [Nat.beq_eq, form_toNat]
        · rw [spelled] at hd
          obtain ⟨m, hm, rfl⟩ := List.mem_map.1 hd
          rw [← form_toNat, toNat_of_areValid valid hm]
          exact clear m hm
  · simp only [isWildcard, Bool.or_eq_true, beq_iff_eq] at hc
    rw [form_toNat] at run one
    rcases hc with rfl | rfl
    · exact run
    · exact one

lemma ascii_fold_toUpper : ∀ n < 0x80, fold (Char.ofNat n).toUpper = fold (.ofNat n) := by decide

lemma ascii_fold_toLower : ∀ n < 0x80, fold (Char.ofNat n).toLower = fold (.ofNat n) := by decide

lemma parts_upper :
    Parts upperLetter fun d => isLost (strays upperRuns upperLong) d.toNat :=
  parts_of_tables wellFormed_upper parted_upper ascii_fold_toUpper

lemma parts_lower :
    Parts lowerLetter fun d => isLost (strays lowerRuns lowerLong) d.toNat :=
  parts_of_tables wellFormed_lower parted_lower ascii_fold_toLower

-- the form of a small sharp s is lost, though the capital has the same form and lasts
example : fold 'ẞ' = fold 'ß' ∧ Lasts upperLetter 'ẞ' ∧ ¬ Lasts upperLetter 'ß' := by
  decide +kernel

end LockRegistry.Text
