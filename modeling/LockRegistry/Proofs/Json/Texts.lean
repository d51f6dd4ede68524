import LockRegistry.Json.Reader
import Mathlib.Tactic.Lemma

namespace LockRegistry.Json

section Texts

variable {a b c d : Char} {found rest : List Char} {n : Nat}

lemma text_of_unit (good : unit? a b c d = some n) (low : n < 0xD800) (found rest : List Char) :
    text found ('\\' :: 'u' :: a :: b :: c :: d :: rest) = text (.ofNat n :: found) rest := by
  have notLow : isLow n = false := by
    rw [isLow, decide_eq_false (by omega), Bool.false_and]
  have notHigh : isHigh n = false := by
    rw [isHigh, decide_eq_false (by omega), Bool.false_and]
  rw [text]
  simp only [good, notLow, notHigh, Bool.false_eq_true, if_false]

lemma unit?_hexDigit : ∀ n < 0x20,
    unit? '0' '0' (hexDigit (n / 16)) (hexDigit (n % 16)) = some n := by
  decide

lemma text_of_plain (quote : c ≠ '"') (escape : c ≠ '\\') (ink : ¬ c.toNat < 0x20) :
    text found (c :: rest) = text (c :: found) rest := by
  rw [text]
  · exact if_neg ink
  · exact quote
  · exact fun _ _ _ _ _ same => absurd same escape
  · exact fun _ _ same => absurd same escape

lemma text_escapeChar (c : Char) (found rest : List Char) :
    text found (escapeChar c ++ rest) = text (c :: found) rest := by
  unfold escapeChar
  split
  · rename_i quoted
    rcases quoted with rfl | rfl <;> rfl
  · rename_i bare
    obtain ⟨quote, escape⟩ := not_or.1 bare
    iterate 5
      split
      · subst_vars
        rfl
    split
    · rename_i control
      have read := text_of_unit (unit?_hexDigit c.toNat control) (by omega) found rest
      rwa [Char.ofNat_toNat] at read
    · rename_i ink
      exact text_of_plain quote escape ink

lemma text_escaped (cs found rest : List Char) :
    text found (cs.flatMap escapeChar ++ '"' :: rest) =
      some (String.ofList (found.reverse ++ cs), rest) := by
  induction cs generalizing found with
  | nil => simp [text]
  | cons c cs ih =>
    rw [List.flatMap_cons, List.append_assoc, text_escapeChar, ih, List.reverse_cons,
      List.append_assoc, List.singleton_append]

lemma toList_quote (s : String) :
    (quote s).toList = '"' :: (s.toList.flatMap escapeChar ++ ['"']) := by
  simp [quote]

lemma text_quote (s : String) (rest : List Char) :
    text [] ((quote s).toList.tail ++ rest) = some (s, rest) := by
  have read := text_escaped s.toList [] rest
  rw [List.reverse_nil, List.nil_append, String.ofList_toList] at read
  rw [toList_quote, List.tail_cons, List.append_assoc, List.singleton_append, read]

end Texts

section Values

variable (depth : Nat) {fuel : Nat} {rest : List Char}

lemma skip_of_not_space {c : Char} {cs : List Char} (ink : isSpace c = false) :
    skip (c :: cs) = c :: cs := by
  simp [skip, ink]

lemma compactItems_texts (texts : List String) :
    compactItems (texts.map str) = texts.map quote := by
  induction texts with
  | nil => rfl
  | cons s texts ih => rw [List.map_cons, compactItems, ih, compact, List.map_cons]

lemma compactFields_texts (fields : List (String × String)) :
    compactFields (fields.map fun f => (f.1, str f.2)) =
      fields.map fun f => quote f.1 ++ ":" ++ quote f.2 := by
  induction fields with
  | nil => rfl
  | cons f fields ih => rw [List.map_cons, compactFields, ih, compact, List.map_cons]

lemma valueWithin_text (enough : 0 < fuel) (s : String) (rest : List Char) :
    valueWithin depth fuel ((quote s).toList ++ rest) = some (str s, rest) := by
  obtain ⟨fuel, rfl⟩ := Nat.exists_eq_succ_of_ne_zero (Nat.ne_of_gt enough)
  have read := text_quote s rest
  rw [toList_quote] at read ⊢
  rw [List.cons_append, valueWithin, skip_of_not_space rfl]
  simp only [List.tail_cons] at read
  simp only [read, Option.map_some]

lemma commas_cons_cons {α : Type} (write : α → List Char) (a b : α) (l : List α)
    (rest : List Char) :
    [','].intercalate ((a :: b :: l).map write) ++ rest =
      write a ++ ',' :: ([','].intercalate ((b :: l).map write) ++ rest) := by
  simp [List.intercalate_cons_cons]

lemma itemsWithin_last (enough : 0 < fuel) (found : List Json) (s : String) :
    itemsWithin depth (fuel + 1) found ((quote s).toList ++ ']' :: rest) =
      some (arr (found.reverse ++ [str s]), rest) := by
  rw [itemsWithin, valueWithin_text depth enough]
  simp [skip_of_not_space (show isSpace ']' = false from rfl)]

lemma itemsWithin_next (enough : 0 < fuel) (found : List Json) (s : String) :
    itemsWithin depth (fuel + 1) found ((quote s).toList ++ ',' :: rest) =
      itemsWithin depth fuel (str s :: found) rest := by
  rw [itemsWithin, valueWithin_text depth enough]
  simp [skip_of_not_space (show isSpace ',' = false from rfl)]

lemma itemsWithin_texts {texts : List String} (filled : texts ≠ [])
    (enough : texts.length < fuel) (found : List Json) (rest : List Char) :
    itemsWithin depth fuel found
        ([','].intercalate (texts.map fun s => (quote s).toList) ++ ']' :: rest) =
      some (arr (found.reverse ++ texts.map str), rest) := by
  induction texts generalizing fuel found with
  | nil => exact absurd rfl filled
  | cons s texts ih =>
    obtain ⟨fuel, rfl⟩ := Nat.exists_eq_succ_of_ne_zero (Nat.ne_of_gt (Nat.zero_lt_of_lt enough))
    have enough' : texts.length < fuel := Nat.lt_of_succ_lt_succ enough
    cases texts with
    | nil =>
      rw [List.map_singleton, List.intercalate_singleton, itemsWithin_last depth enough',
        List.map_singleton]
    | cons s' texts =>
      rw [commas_cons_cons, itemsWithin_next depth (Nat.zero_lt_of_lt enough'),
        ih (List.cons_ne_nil _ _) enough', List.reverse_cons, List.append_assoc]
      rfl

lemma setField_of_new {found : List (String × Json)} {name : String}
    (new : name ∉ found.map (·.1)) (j : Json) : setField found name j = found ++ [(name, j)] := by
  have kept : ∀ f ∈ found, (f.1 != name) = true := fun f mem =>
    bne_iff_ne.2 fun same => new (same ▸ List.mem_map_of_mem mem)
  rw [setField, List.filter_eq_self.2 kept]

def fieldText (f : String × String) : List Char := (quote f.1 ++ ":" ++ quote f.2).toList

lemma fieldText_eq (f : String × String) :
    fieldText f = (quote f.1).toList ++ ':' :: (quote f.2).toList := by
  simp [fieldText]

section Fields

variable {found : List (String × Json)} {f : String × String}

lemma text_fieldText (f : String × String) (rest : List Char) :
    text [] ((fieldText f).tail ++ rest) = some (f.1, ':' :: ((quote f.2).toList ++ rest)) := by
  have name := text_quote f.1 (':' :: ((quote f.2).toList ++ rest))
  rw [fieldText_eq, toList_quote f.1]
  rw [toList_quote] at name
  simpa using name

lemma fieldText_eq_cons (f : String × String) : fieldText f = '"' :: (fieldText f).tail := by
  rw [fieldText_eq, toList_quote f.1]
  rfl

lemma fieldsWithin_last (enough : 0 < fuel) (new : f.1 ∉ found.map (·.1)) :
    fieldsWithin depth (fuel + 1) found (fieldText f ++ '\x7d' :: rest) =
      some (obj (found ++ [(f.1, str f.2)]), rest) := by
  rw [fieldText_eq_cons, List.cons_append, fieldsWithin, skip_of_not_space rfl]
  simp only [text_fieldText, skip_of_not_space (show isSpace ':' = false from rfl),
    valueWithin_text depth enough, setField_of_new new,
    skip_of_not_space (show isSpace '\x7d' = false from rfl)]

lemma fieldsWithin_next (enough : 0 < fuel) (new : f.1 ∉ found.map (·.1)) :
    fieldsWithin depth (fuel + 1) found (fieldText f ++ ',' :: rest) =
      fieldsWithin depth fuel (found ++ [(f.1, str f.2)]) rest := by
  rw [fieldText_eq_cons, List.cons_append, fieldsWithin, skip_of_not_space rfl]
  simp only [text_fieldText, skip_of_not_space (show isSpace ':' = false from rfl),
    valueWithin_text depth enough, setField_of_new new,
    skip_of_not_space (show isSpace ',' = false from rfl)]

lemma fieldsWithin_texts {fields : List (String × String)} (filled : fields ≠ [])
    (enough : fields.length < fuel) (found : List (String × Json))
    (distinct : (found.map (·.1) ++ fields.map (·.1)).Nodup) (rest : List Char) :
    fieldsWithin depth fuel found ([','].intercalate (fields.map fieldText) ++ '\x7d' :: rest) =
      some (obj (found ++ fields.map fun f => (f.1, str f.2)), rest) := by
  induction fields generalizing fuel found with
  | nil => exact absurd rfl filled
  | cons f fields ih =>
    obtain ⟨fuel, rfl⟩ := Nat.exists_eq_succ_of_ne_zero (Nat.ne_of_gt (Nat.zero_lt_of_lt enough))
    have enough' : fields.length < fuel := Nat.lt_of_succ_lt_succ enough
    have new : f.1 ∉ found.map (·.1) := fun mem =>
      (List.nodup_append.1 distinct).2.2 f.1 mem f.1 List.mem_cons_self rfl
    cases fields with
    | nil =>
      rw [List.map_singleton, List.intercalate_singleton, fieldsWithin_last depth enough' new]
      rfl
    | cons f' fields =>
      have distinct' : ((found ++ [(f.1, str f.2)]).map (·.1) ++
          (f' :: fields).map (·.1)).Nodup := by
        simpa using distinct
      rw [commas_cons_cons, fieldsWithin_next depth (Nat.zero_lt_of_lt enough') new,
        ih (List.cons_ne_nil _ _) enough' _ distinct', List.append_assoc]
      rfl

end Fields

section Compact

variable {α : Type} {write : α → List Char} {l : List α}

lemma commas_eq_cons (quoted : ∀ a, ∃ cs, write a = '"' :: cs) (filled : l ≠ []) :
    ∃ cs, [','].intercalate (l.map write) = '"' :: cs ∧ l.length ≤ cs.length + 1 := by
  induction l with
  | nil => exact absurd rfl filled
  | cons a l ih =>
    obtain ⟨cs, first⟩ := quoted a
    cases l with
    | nil => exact ⟨cs, by simp [first], by simp⟩
    | cons b l =>
      obtain ⟨ds, rest, long⟩ := ih (List.cons_ne_nil _ _)
      have split := commas_cons_cons write a b l []
      rw [List.append_nil, List.append_nil, rest, first] at split
      refine ⟨cs ++ ',' :: '"' :: ds, split, ?_⟩
      simp only [List.length_cons, List.length_append] at long ⊢
      omega

lemma quote_eq_cons (s : String) : ∃ cs, (quote s).toList = '"' :: cs := ⟨_, toList_quote s⟩

lemma parse?_of_valueWithin {s : String} {j : Json}
    (h : valueWithin depthLimit (s.toList.length + 1) s.toList = some (j, [])) :
    parse? s = some j := by
  simp only [parse?, h]
  rfl

lemma parse?_text (s : String) : parse? (str s).compact = some (str s) := by
  have enough : 0 < (quote s).toList.length + 1 := Nat.succ_pos _
  have read := valueWithin_text depthLimit enough s []
  rw [List.append_nil] at read
  exact parse?_of_valueWithin read

lemma parse?_texts (texts : List String) :
    parse? (arr (texts.map str)).compact = some (arr (texts.map str)) := by
  refine parse?_of_valueWithin ?_
  have written : (arr (texts.map str)).compact.toList =
      '[' :: ([','].intercalate (texts.map fun s => (quote s).toList) ++ [']']) := by
    simp [compact, compactItems_texts, String.toList_intercalate, Function.comp_def]
  rw [written, valueWithin, skip_of_not_space rfl]
  by_cases filled : texts = []
  · subst filled
    rfl
  · obtain ⟨cs, quoted, long⟩ := commas_eq_cons quote_eq_cons filled
    have enough : texts.length < ('[' :: ('"' :: cs ++ [']'])).length := by
      simp only [List.length_cons, List.length_append]
      omega
    have read := itemsWithin_texts (depthLimit - 1) filled enough [] []
    rw [quoted] at read ⊢
    exact read

def record (texts : List (String × String)) : Json := obj (texts.map fun f => (f.1, str f.2))

lemma parse?_record {texts : List (String × String)} (distinct : (texts.map (·.1)).Nodup) :
    parse? (record texts).compact = some (record texts) := by
  refine parse?_of_valueWithin ?_
  have written : (record texts).compact.toList =
      '\x7b' :: ([','].intercalate (texts.map fieldText) ++ ['\x7d']) := by
    simp [record, compact, compactFields_texts, String.toList_intercalate, Function.comp_def,
      openBrace, closeBrace, funext fieldText_eq]
  rw [written, valueWithin, skip_of_not_space rfl]
  by_cases filled : texts = []
  · subst filled
    rfl
  · obtain ⟨cs, quoted, long⟩ := commas_eq_cons (fun f => ⟨_, fieldText_eq_cons f⟩) filled
    have enough : texts.length < ('\x7b' :: ('"' :: cs ++ ['\x7d'])).length := by
      simp only [List.length_cons, List.length_append]
      omega
    have read := fieldsWithin_texts (depthLimit - 1) filled enough [] distinct []
    rw [quoted] at read ⊢
    exact read

end Compact

end Values

end LockRegistry.Json
