import LockRegistry.Proofs.Text.Blank
import LockRegistry.Proofs.Text.CaseTable

namespace LockRegistry.Text

inductive Recased : List Char → List Char → Prop
  | nil : Recased [] []
  | cons {c : Char} {cs ds ds' : List Char} (h : Respells c ds) (rest : Recased cs ds') :
      Recased (c :: cs) (ds ++ ds')

namespace Recased

variable {cs ds : List Char}

lemma isBlank_head (h : Recased cs ds) (hc : ∀ c, cs.head? = some c → isBlank c = false) :
    ∀ d, ds.head? = some d → isBlank d = false := by
  cases h with
  | nil => exact hc
  | cons h _ =>
    obtain ⟨c, cs, rfl⟩ := List.exists_cons_of_ne_nil h.ne_nil
    intro d hd
    obtain rfl := Option.some.inj hd
    exact h.isBlank (hc _ rfl) _ List.mem_cons_self

lemma eq_nil (h : Recased cs []) : cs = [] := by
  generalize hd : ([] : List Char) = ds at h
  cases h with
  | nil => rfl
  | cons h _ => exact absurd (List.append_eq_nil_iff.1 hd.symm).1 h.ne_nil

lemma isBlank_last (h : Recased cs ds) (hc : ∀ c, cs.getLast? = some c → isBlank c = false) :
    ∀ d, ds.getLast? = some d → isBlank d = false := by
  induction h with
  | nil => exact hc
  | @cons c cs ds ds' h rest ih =>
    intro d hd
    rw [List.getLast?_append] at hd
    cases hl : ds'.getLast? with
    | some d' =>
      rw [hl] at hd
      obtain rfl := Option.some.inj hd
      refine ih (fun c' hc' => hc c' ?_) _ hl
      rw [List.getLast?_cons, hc']
      rfl
    | none =>
      rw [hl] at hd
      obtain rfl := List.getLast?_eq_none_iff.1 hl
      obtain rfl := rest.eq_nil
      exact h.isBlank (hc c rfl) d (List.mem_of_getLast? hd)

lemma trimmed (h : Recased cs ds) (hc : Trimmed cs) : Trimmed ds :=
  ⟨h.isBlank_head hc.1, h.isBlank_last hc.2⟩

lemma countP_eq (h : Recased cs ds) : ds.countP isWildcard = cs.countP isWildcard := by
  induction h with
  | nil => rfl
  | @cons c cs ds ds' h _ ih =>
    rw [List.countP_append, ← List.singleton_append, List.countP_append, h.wildcards, ih]

end Recased

lemma recased_upper (cs : List Char) : Recased cs (cs.flatMap upperLetter) := by
  induction cs with
  | nil => exact .nil
  | cons c cs ih => exact .cons (tabled_upper.respells c) ih

lemma recased_lower (inWord : Bool) (cs : List Char) : Recased cs (lowerFrom inWord cs) := by
  induction cs generalizing inWord with
  | nil => exact .nil
  | cons c cs ih =>
    refine .cons ?_ (ih _)
    split
    -- the one letter whose small form depends on its place is not in the table
    · rename_i sigma
      subst sigma
      split <;>
        exact ⟨List.cons_ne_nil _ _, fun _ d hd => by rw [List.mem_singleton.1 hd]; rfl, by decide⟩
    · exact tabled_lower.respells c

lemma lowerLetter_of_mem {d : Char} {inWord : Bool} {cs : List Char}
    (h : d ∈ lowerFrom inWord cs) : lowerLetter d = [d] := by
  induction cs generalizing inWord with
  | nil => cases h
  | cons c cs ih =>
    rcases List.mem_append.1 h with h | h
    · split at h
      · split at h <;> obtain rfl := List.mem_singleton.1 h <;> decide
      · exact tabled_lower.eq_self h
    · exact ih h

lemma lowerFrom_eq_self {inWord : Bool} {cs : List Char} (h : ∀ c ∈ cs, lowerLetter c = [c]) :
    lowerFrom inWord cs = cs := by
  induction cs generalizing inWord with
  | nil => rfl
  | cons c cs ih =>
    have still := h c List.mem_cons_self
    have small : c ≠ 'Σ' := by
      rintro rfl
      revert still
      decide
    rw [lowerFrom, if_neg small, still, ih fun d hd => h d (List.mem_cons_of_mem _ hd)]
    rfl

lemma flatMap_upperLetter {cs : List Char} (h : ∀ c ∈ cs, upperLetter c = [c]) :
    cs.flatMap upperLetter = cs := by
  induction cs with
  | nil => rfl
  | cons c cs ih =>
    rw [List.flatMap_cons, h c List.mem_cons_self, ih fun d hd => h d (List.mem_cons_of_mem _ hd)]
    rfl

lemma upperLetter_of_mem {d : Char} {s : String} (h : d ∈ (upper s).toList) :
    upperLetter d = [d] := by
  rw [toList_upper] at h
  obtain ⟨c, -, hd⟩ := List.mem_flatMap.1 h
  exact tabled_upper.eq_self hd

@[simp] lemma upper_upper (s : String) : upper (upper s) = upper s := by
  rw [upper, flatMap_upperLetter fun c hc => upperLetter_of_mem hc, String.ofList_toList]

@[simp] lemma lower_lower (s : String) : lower (lower s) = lower s := by
  have still : ∀ c ∈ (lower s).toList, lowerLetter c = [c] := fun c hc => by
    rw [toList_lower] at hc
    exact lowerLetter_of_mem hc
  rw [lower, lowerFrom_eq_self still, String.ofList_toList]

lemma trim_recased {s t : String} (hs : trim s = s) (h : Recased s.toList t.toList) :
    trim t = t := by
  have ends : Trimmed s.toList := by
    rw [← hs, toList_trim]
    exact trimmed_trimList _
  rw [trim, (h.trimmed ends).trimList_eq, String.ofList_toList]

lemma trim_upper {s : String} (hs : trim s = s) : trim (upper s) = upper s :=
  trim_recased hs (by rw [toList_upper]; exact recased_upper _)

lemma trim_lower {s : String} (hs : trim s = s) : trim (lower s) = lower s :=
  trim_recased hs (by rw [toList_lower]; exact recased_lower _ _)

lemma ascii_toLower_toUpper : ∀ n < 0x80, (Char.ofNat n).toUpper = .ofNat n →
    (Char.ofNat n).toLower.toUpper = .ofNat n := by
  decide

lemma toUpper_toLower {c : Char} (h : upperLetter c = [c]) : c.toLower.toUpper = c := by
  by_cases small : c.toNat < 0x80
  · rw [upperLetter, if_pos small, List.singleton_inj] at h
    have back := ascii_toLower_toUpper c.toNat small
    rw [Char.ofNat_toNat] at back
    exact back h
  · have lower : c.toLower = c := dif_neg fun hc => small (Nat.lt_of_le_of_lt hc.2 (by decide))
    have upper : c.toUpper = c := dif_neg fun hc => small (Nat.lt_of_le_of_lt hc.2 (by decide))
    rw [lower, upper]

lemma sameAscii_upper {a b : String} :
    sameAscii (upper a) (upper b) = true ↔ upper a = upper b := by
  have back (s : String) :
      ((upper s).toList.map Char.toLower).map Char.toUpper = (upper s).toList := by
    rw [List.map_map]
    exact (List.map_congr_left fun c hc => toUpper_toLower (upperLetter_of_mem hc)).trans
      (List.map_id _)
  rw [sameAscii, beq_iff_eq]
  constructor
  · intro same
    have lists : (upper a).toList = (upper b).toList := by rw [← back a, same, back b]
    exact String.toList_inj.1 lists
  · intro same
    rw [same]

section Padding

variable {before after : List Char}

lemma caseless_blanks : ∀ r ∈ blankRanges, ∀ n ∈ List.range' r.1 (r.2 + 1 - r.1),
    lowerLetter (.ofNat n) = [.ofNat n] ∧ isCased (.ofNat n) = false ∧
      isCaseIgnorable (.ofNat n) = false := by
  decide +kernel

lemma caseless_of_isBlank {c : Char} (h : isBlank c = true) :
    lowerLetter c = [c] ∧ isCased c = false ∧ isCaseIgnorable c = false := by
  obtain ⟨r, hr, low, high⟩ := inRanges_iff.1 h
  have found : c.toNat ∈ List.range' r.1 (r.2 + 1 - r.1) := by
    rw [List.mem_range'_1]
    omega
  have caseless := caseless_blanks r hr c.toNat found
  rwa [Char.ofNat_toNat] at caseless

lemma lowerFrom_blanks_append (blank : Blanks before) (cs : List Char) :
    lowerFrom false (before ++ cs) = before ++ lowerFrom false cs := by
  induction before with
  | nil => rfl
  | cons c before ih =>
    obtain ⟨still, cased, ignorable⟩ := caseless_of_isBlank (blank c List.mem_cons_self)
    have small : c ≠ 'Σ' := by
      rintro rfl
      cases still
    rw [List.cons_append, lowerFrom, if_neg small, still, ignorable, cased, ite_self,
      ih fun d hd => blank d (List.mem_cons_of_mem _ hd)]
    rfl

lemma startsCased_blanks (blank : Blanks after) : startsCased after = false := by
  cases after with
  | nil => rfl
  | cons c after =>
    obtain ⟨-, cased, ignorable⟩ := caseless_of_isBlank (blank c List.mem_cons_self)
    rw [startsCased, List.dropWhile_cons_of_neg (by simp [ignorable])]
    exact cased

lemma startsCased_append (blank : Blanks after) (cs : List Char) :
    startsCased (cs ++ after) = startsCased cs := by
  induction cs with
  | nil => exact startsCased_blanks blank
  | cons c cs ih =>
    by_cases ignorable : isCaseIgnorable c = true
    · simpa [startsCased, ignorable] using ih
    · simp [startsCased, ignorable]

lemma lowerFrom_append_blanks (blank : Blanks after) (inWord : Bool) (cs : List Char) :
    lowerFrom inWord (cs ++ after) = lowerFrom inWord cs ++ after := by
  induction cs generalizing inWord with
  | nil => exact lowerFrom_eq_self fun c hc => (caseless_of_isBlank (blank c hc)).1
  | cons c cs ih =>
    -- whether a sigma ends its word does not hang on the blanks after it
    rw [List.cons_append, lowerFrom, lowerFrom, startsCased_append blank, ih, List.append_assoc]

lemma trim_lower_comm (s : String) : trim (lower s) = lower (trim s) := by
  obtain ⟨before, after, blank, blank', split⟩ := exists_trimList s.toList
  have small : Trimmed (lowerFrom false (trimList s.toList)) :=
    (recased_lower false _).trimmed (trimmed_trimList _)
  have padded : lowerFrom false s.toList =
      before ++ (lowerFrom false (trimList s.toList) ++ after) :=
    calc lowerFrom false s.toList
        = lowerFrom false (before ++ (trimList s.toList ++ after)) := congrArg _ split
      _ = before ++ lowerFrom false (trimList s.toList ++ after) := lowerFrom_blanks_append blank _
      _ = before ++ (lowerFrom false (trimList s.toList) ++ after) := by
        rw [lowerFrom_append_blanks blank']
  rw [← String.toList_inj, toList_trim, toList_lower, toList_lower, toList_trim, padded,
    trimList_of_padded blank blank' small]

end Padding

end LockRegistry.Text
