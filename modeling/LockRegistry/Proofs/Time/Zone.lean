import LockRegistry.Time.Zone
import Mathlib.Tactic.Lemma

/-! Which texts are zones. Offsets are taken in a wider layout than the one that is documented. -/

namespace LockRegistry

namespace Time

-- The minus sign may be that of the keyboard or the one of printed texts.
inductive IsSign : Char → Int → Prop
  | plus : IsSign '+' 1
  | hyphen : IsSign '-' (-1)
  | minus : IsSign '−' (-1)

structure TwoDigits (a b : Char) (n : Nat) : Prop where
  tens : a.isDigit = true
  units : b.isDigit = true
  value : n = Nat.ofDigitChars 10 [a, b] 0

inductive Writes (between after : List Char) : List Char → Int → Prop
  | clock {c h₁ h₂ m₁ m₂ : Char} {sign : Int} {hours minutes : Nat} (signed : IsSign c sign)
      (hoursDigits : TwoDigits h₁ h₂ hours) (minutesDigits : TwoDigits m₁ m₂ minutes)
      (hours_le : hours ≤ 23) (minutes_le : minutes ≤ 59) :
      Writes between after (c :: h₁ :: h₂ :: (between ++ m₁ :: m₂ :: after))
        (sign * (3600 * hours + 60 * minutes))

def Concise (between after : List Char) : Prop := (between = [] ∨ between = [':']) ∧ after = []

-- Any colons and white space between the hours and the minutes, and anything after these.
def Lenient (between _after : List Char) : Prop :=
  ∀ c ∈ between, c = ':' ∨ Text.isBlank c = true

variable {cs rest between after between' after' : List Char} {a b c : Char} {n : Nat}
  {sign offset offset' : Int}

lemma Concise.lenient (h : Concise between after) : Lenient between after := by
  obtain ⟨rfl | rfl, -⟩ := h
  · exact List.forall_mem_nil _
  · exact fun c hc => .inl (List.mem_singleton.1 hc)

lemma separator_iff : isOffsetSeparator c = true ↔ c = ':' ∨ Text.isBlank c = true := by
  simp [isOffsetSeparator]

lemma not_separator_of_digit (digit : c.isDigit = true) : ¬ isOffsetSeparator c = true := by
  obtain ⟨least, greatest⟩ : 48 ≤ c.toNat ∧ c.toNat ≤ 57 := Char.isDigit_iff_toNat.1 digit
  rw [separator_iff, Text.isBlank, Text.inRanges_iff]
  rintro (rfl | ⟨r, member, first, last⟩)
  · exact absurd greatest (by decide)
  · -- The digits fall between the second range and the third.
    simp only [Text.blankRanges, List.mem_cons, List.not_mem_nil, or_false] at member
    rcases member with rfl | rfl | rfl | rfl | rfl | rfl | rfl | rfl | rfl | rfl <;>
      simp only at first last <;> omega

lemma offsetSign?_eq_some :
    offsetSign? cs = some (sign, rest) ↔ ∃ c, IsSign c sign ∧ cs = c :: rest := by
  constructor
  · intro h
    unfold offsetSign? at h
    split at h
    · cases h
      exact ⟨_, .plus, rfl⟩
    · cases h
      exact ⟨_, .hyphen, rfl⟩
    · cases h
      exact ⟨_, .minus, rfl⟩
    · cases h
  · rintro ⟨c, signed, rfl⟩
    cases signed <;> rfl

lemma twoDigits?_eq_some :
    twoDigits? cs = some (n, rest) ↔ ∃ a b, TwoDigits a b n ∧ cs = a :: b :: rest := by
  have value (a b : Char) : Nat.ofDigitChars 10 [a, b] 0 =
      (a.toNat - '0'.toNat) * 10 + (b.toNat - '0'.toNat) := by
    simp [Nat.ofDigitChars_cons, Nat.mul_comm]
  constructor
  · intro h
    unfold twoDigits? at h
    split at h
    · rename_i a b rest
      split at h
      · rename_i digits
        rw [Bool.and_eq_true] at digits
        cases h
        exact ⟨a, b, ⟨digits.1, digits.2, (value a b).symm⟩, rfl⟩
      · cases h
    · cases h
  · rintro ⟨a, b, ⟨tens, units, rfl⟩, rfl⟩
    simp [twoDigits?, tens, units, value]

lemma dropWhile_separators (lenient : Lenient between after) (digit : c.isDigit = true) :
    (between ++ c :: rest).dropWhile isOffsetSeparator = c :: rest := by
  rw [List.dropWhile_append_of_pos fun d hd => separator_iff.2 (lenient d hd)]
  exact List.dropWhile_cons_of_neg (not_separator_of_digit digit)

lemma takeWhile_separators (lenient : Lenient between after) (digit : c.isDigit = true) :
    (between ++ c :: rest).takeWhile isOffsetSeparator = between := by
  rw [List.takeWhile_append_of_pos fun d hd => separator_iff.2 (lenient d hd),
    List.takeWhile_cons_of_neg (not_separator_of_digit digit), List.append_nil]

lemma offset?_eq_some :
    offset? cs = some offset ↔
      ∃ between after, Lenient between after ∧ Writes between after cs offset := by
  simp only [offset?, Option.bind_eq_bind, Option.bind_eq_some_iff]
  constructor
  · rintro ⟨⟨sign, afterSign⟩, signRead, ⟨hours, afterHours⟩, hoursRead, ⟨minutes, after⟩,
      minutesRead, within⟩
    obtain ⟨c, signed, rfl⟩ := offsetSign?_eq_some.1 signRead
    obtain ⟨h₁, h₂, hoursDigits, rfl⟩ := twoDigits?_eq_some.1 hoursRead
    obtain ⟨m₁, m₂, minutesDigits, cut⟩ := twoDigits?_eq_some.1 minutesRead
    split at within
    · rename_i bounds
      cases within
      obtain ⟨between, lenient, rfl⟩ : ∃ between, Lenient between after ∧
          afterHours = between ++ m₁ :: m₂ :: after := by
        refine ⟨afterHours.takeWhile isOffsetSeparator, ?_, ?_⟩
        · exact fun d hd => separator_iff.1 (List.all_eq_true.1 List.all_takeWhile d hd)
        · rw [← cut]
          exact List.takeWhile_append_dropWhile.symm
      refine ⟨between, after, lenient, ?_⟩
      rw [Int.mul_comm _ 3600, Int.mul_comm _ 60]
      exact .clock signed hoursDigits minutesDigits bounds.1 bounds.2
    · cases within
  · rintro ⟨between, after, lenient, writes⟩
    cases writes with
    | @clock c h₁ h₂ m₁ m₂ sign hours minutes signed hoursDigits minutesDigits bound bound' =>
      refine ⟨(sign, _), offsetSign?_eq_some.2 ⟨c, signed, rfl⟩, (hours, _),
        twoDigits?_eq_some.2 ⟨h₁, h₂, hoursDigits, rfl⟩, (minutes, after),
        twoDigits?_eq_some.2 ⟨m₁, m₂, minutesDigits, ?_⟩, ?_⟩
      · exact dropWhile_separators lenient minutesDigits.tens
      · rw [if_pos ⟨bound, bound'⟩, Int.mul_comm 3600, Int.mul_comm 60]

lemma Writes.shape (h : Writes between after cs offset) :
    ∃ c h₁ h₂ m₁ m₂, m₁.isDigit = true ∧ cs = c :: h₁ :: h₂ :: (between ++ m₁ :: m₂ :: after) := by
  cases h with
  | clock _ _ minutesDigits => exact ⟨_, _, _, _, _, minutesDigits.tens, rfl⟩

lemma Writes.layout_unique (lenient : Lenient between after) (lenient' : Lenient between' after')
    (h : Writes between after cs offset) (h' : Writes between' after' cs offset') :
    between = between' ∧ after = after' := by
  obtain ⟨c, h₁, h₂, m₁, m₂, digit, rfl⟩ := h.shape
  obtain ⟨c', h₁', h₂', m₁', m₂', digit', same⟩ := h'.shape
  obtain ⟨-, -, -, tails⟩ : c = c' ∧ h₁ = h₁' ∧ h₂ = h₂' ∧
      between ++ m₁ :: m₂ :: after = between' ++ m₁' :: m₂' :: after' := by
    simpa only [List.cons.injEq] using same
  have heads : between = between' := by
    rw [← takeWhile_separators lenient digit, tails, takeWhile_separators lenient' digit']
  subst heads
  have rests := List.append_cancel_left tails
  simp only [List.cons.injEq] at rests
  exact ⟨rfl, rests.2.2⟩

end Time

namespace Zone

open Time

inductive Reads (zones : List NamedZone) (layout : List Char → List Char → Prop) (text : String) :
    Zone → Prop
  | zulu (h : text = "z" ∨ text = "Z") : Reads zones layout text utc
  | named {zone : NamedZone} (other : ¬ (text = "z" ∨ text = "Z"))
      (found : NamedZone.find? zones text = some zone) : Reads zones layout text (.named zone)
  | fixed {between after : List Char} {offset : Int} (allowed : layout between after)
      (other : ¬ (text = "z" ∨ text = "Z")) (unnamed : NamedZone.find? zones text = none)
      (writes : Writes between after text.toList offset) : Reads zones layout text (.fixed offset)

variable {zones : List NamedZone} {raw text : String} {zone : Zone}

lemma parseAmong_eq_ok :
    parseAmong zones raw = .ok zone ↔ Reads zones Lenient (Text.trim raw) zone := by
  simp only [parseAmong]
  split
  · rename_i zulu
    constructor
    · intro h
      cases h
      exact .zulu zulu
    · intro h
      cases h with
      | zulu => rfl
      | named other => exact absurd zulu other
      | fixed _ other => exact absurd zulu other
  · rename_i other
    cases found : NamedZone.find? zones (Text.trim raw) with
    | some named =>
      constructor
      · intro h
        cases h
        exact .named other found
      · intro h
        cases h with
        | zulu zulu => exact absurd zulu other
        | named _ found' => rw [Option.some.inj (found.symm.trans found')]
        | fixed _ _ unnamed => exact absurd (found.symm.trans unnamed) nofun
    | none =>
      constructor
      · intro h
        cases read : offset? (Text.trim raw).toList with
        | none =>
          rw [read] at h
          cases h
        | some offset =>
          rw [read] at h
          cases h
          obtain ⟨between, after, lenient, writes⟩ := offset?_eq_some.1 read
          exact .fixed lenient other found writes
      · intro h
        cases h with
        | zulu zulu => exact absurd zulu other
        | named _ found' => exact absurd (found.symm.trans found') nofun
        | fixed lenient _ _ writes => simp only [offset?_eq_some.2 ⟨_, _, lenient, writes⟩]

lemma parseAmong_eq_error (h : parseAmong zones raw = .error text) : text = Text.trim raw := by
  simp only [parseAmong] at h
  split at h
  · cases h
  · split at h
    · cases h
    · split at h
      · cases h
      · cases h
        rfl

structure Loose (zones : List NamedZone) (text : String) : Prop where
  other : ¬ (text = "z" ∨ text = "Z")
  unnamed : NamedZone.find? zones text = none
  written : ∃ between after offset, Lenient between after ∧ ¬ Concise between after ∧
    Writes between after text.toList offset

lemma Reads.lenient (h : Reads zones Concise text zone) : Reads zones Lenient text zone := by
  cases h with
  | zulu h => exact .zulu h
  | named other found => exact .named other found
  | fixed concise other unnamed writes => exact .fixed concise.lenient other unnamed writes

lemma Reads.concise (h : Reads zones Lenient text zone) (tight : ¬ Loose zones text) :
    Reads zones Concise text zone := by
  cases h with
  | zulu h => exact .zulu h
  | named other found => exact .named other found
  | @fixed between after offset lenient other unnamed writes =>
    by_cases concise : Concise between after
    · exact .fixed concise other unnamed writes
    · exact absurd ⟨other, unnamed, between, after, offset, lenient, concise, writes⟩ tight

lemma Loose.lenient (h : Loose zones text) : ∃ zone, Reads zones Lenient text zone := by
  obtain ⟨other, unnamed, between, after, offset, lenient, -, writes⟩ := h
  exact ⟨.fixed offset, .fixed lenient other unnamed writes⟩

lemma Loose.not_concise (h : Loose zones text) : ¬ Reads zones Concise text zone := by
  obtain ⟨other, unnamed, between, after, offset, lenient, loose, writes⟩ := h
  intro reads
  cases reads with
  | zulu zulu => exact other zulu
  | named _ found => exact absurd (unnamed.symm.trans found) nofun
  | fixed concise _ _ writes' =>
    obtain ⟨rfl, rfl⟩ := writes.layout_unique lenient concise.lenient writes'
    exact loose concise

/-- A text is read just when its trimmed form is that of a zone in the wider layout. -/
theorem grammar (zones : List NamedZone) (raw : String) :
    (∀ zone, parseAmong zones raw = .ok zone ↔ Reads zones Lenient (Text.trim raw) zone) ∧
    (∀ message, (parseAmong zones raw).mapError unknownMessage = .error message ↔
      message = unknownMessage (Text.trim raw) ∧
        ¬ ∃ zone, Reads zones Lenient (Text.trim raw) zone) ∧
    (∀ zone, Reads zones Concise (Text.trim raw) zone → parseAmong zones raw = .ok zone) ∧
    (((∃ zone, parseAmong zones raw = .ok zone) ↔
        ∃ zone, Reads zones Concise (Text.trim raw) zone) ↔
      ¬ Loose zones (Text.trim raw)) := by
  refine ⟨fun zone => parseAmong_eq_ok, fun message => ?_,
    fun zone reads => parseAmong_eq_ok.2 reads.lenient, ?_⟩
  · simp only [← parseAmong_eq_ok]
    cases read : parseAmong zones raw with
    | ok zone =>
      constructor
      · intro unknown
        cases unknown
      · rintro ⟨-, unread⟩
        exact absurd ⟨zone, rfl⟩ unread
    | error text =>
      obtain rfl := parseAmong_eq_error read
      constructor
      · intro unknown
        cases unknown
        exact ⟨rfl, by simp⟩
      · rintro ⟨rfl, -⟩
        rfl
  · simp only [parseAmong_eq_ok]
    constructor
    · intro same loose
      obtain ⟨zone, reads⟩ := same.1 loose.lenient
      exact loose.not_concise reads
    · intro tight
      constructor
      · rintro ⟨zone, reads⟩
        exact ⟨zone, reads.concise tight⟩
      · rintro ⟨zone, reads⟩
        exact ⟨zone, reads.lenient⟩

theorem grammar_marquesas :
    Reads NamedZone.known Concise (Text.trim " −0930 ") (.fixed (-34200)) ∧
      parseAmong NamedZone.known " −0930 " = .ok (.fixed (-34200)) := by
  have hours : TwoDigits '0' '9' 9 := ⟨rfl, rfl, rfl⟩
  have minutes : TwoDigits '3' '0' 30 := ⟨rfl, rfl, rfl⟩
  have reads : Reads NamedZone.known Concise (Text.trim " −0930 ") (.fixed (-34200)) :=
    .fixed ⟨.inl rfl, rfl⟩ (by decide) (by decide)
      (.clock .minus hours minutes (by decide) (by decide))
  exact ⟨reads, (grammar NamedZone.known " −0930 ").2.2.1 _ reads⟩

theorem grammar_trailing :
    ¬ ((∃ zone, parse "+05:30x" = .ok zone) ↔
      ∃ zone, Reads NamedZone.known Concise (Text.trim "+05:30x") zone) := by
  have trimmed : Text.trim "+05:30x" = "+05:30x" := by decide
  have unnamed : NamedZone.find? NamedZone.known "+05:30x" = none := by decide
  intro same
  rw [trimmed] at same
  obtain ⟨zone, reads⟩ := same.1 ⟨.fixed 19800, by rfl⟩
  cases reads with
  | zulu zulu => exact absurd zulu (by decide)
  | named _ found => exact absurd (unnamed.symm.trans found) nofun
  | fixed concise _ _ writes =>
    obtain ⟨c, h₁, h₂, m₁, m₂, -, text⟩ := writes.shape
    obtain ⟨rfl | rfl, rfl⟩ := concise <;> cases text

end Zone

end LockRegistry
