import LockRegistry.Command.Answer
import LockRegistry.Proofs.Text.Numeral
import LockRegistry.Proofs.Time.Calendar
import LockRegistry.Proofs.Time.Zone
import Mathlib.Order.Bounds.Defs

namespace LockRegistry

namespace Time

-- What a text says: the fraction is kept digit by digit, and a leap second has the number 60.
structure Reading where
  date : Date
  hour : Nat
  minute : Nat
  second : Nat
  fraction : List Char
  offset : Int

namespace Reading

structure Valid (r : Reading) : Prop where
  date : r.date.Valid
  hour_le : r.hour ≤ 23
  minute_le : r.minute ≤ 59
  second_le : r.second ≤ 60
  fraction : r.fraction.length ≤ 9
  offset_lt : r.offset.natAbs < 86400

def nanos (r : Reading) : Nat := Nat.ofDigitChars 10 r.fraction 0 * 10 ^ (9 - r.fraction.length)

def secondOfDay (r : Reading) : Int := r.hour * 3600 + r.minute * 60 + min r.second 59

-- A leap second goes on from the second before it.
def zoned (r : Reading) : ZonedTime where
  instant :=
    { seconds := r.date.dayNumber * 86400 + r.secondOfDay - r.offset
      nanos := r.nanos + if r.second = 60 then 1000000000 else 0 }
  offset := r.offset

end Reading

def skip? (c : Char) : List Char → Option (List Char)
  | d :: cs => if d = c then some cs else none
  | [] => none

def longYear? (cs : List Char) : Option (Nat × List Char) :=
  let digits := cs.takeWhile Char.isDigit
  if 4 ≤ digits.length then some (Nat.ofDigitChars 10 digits 0, cs.dropWhile Char.isDigit) else none

def year? : List Char → Option (Int × List Char)
  | '+' :: cs => (longYear? cs).map fun (n, rest) => (n, rest)
  | '-' :: cs => (longYear? cs).map fun (n, rest) => (-n, rest)
  | cs => do
    let (high, cs) ← twoDigits? cs
    let (low, cs) ← twoDigits? cs
    some (100 * high + low, cs)

def fraction? : List Char → Option (List Char × List Char)
  | '.' :: cs =>
    let digits := cs.takeWhile Char.isDigit
    if digits.isEmpty then none else some (digits, cs.dropWhile Char.isDigit)
  | cs => some ([], cs)

def suffix? : List Char → Option Int
  | ['Z'] => some 0
  | cs => do
    let (sign, cs) ← offsetSign? cs
    let (hours, cs) ← twoDigits? cs
    let cs ← skip? ':' cs
    let (minutes, cs) ← twoDigits? cs
    if cs.isEmpty && hours ≤ 23 && minutes ≤ 59 then some (sign * (3600 * hours + 60 * minutes))
    else none

def date? (cs : List Char) : Option (Date × List Char) := do
  let (year, cs) ← year? cs
  let cs ← skip? '-' cs
  let (month, cs) ← twoDigits? cs
  let cs ← skip? '-' cs
  let (day, cs) ← twoDigits? cs
  some (⟨year, month, day⟩, cs)

def read? (text : String) : Option Reading := do
  let (date, cs) ← date? text.toList
  let cs ← skip? 'T' cs
  let (hour, cs) ← twoDigits? cs
  let cs ← skip? ':' cs
  let (minute, cs) ← twoDigits? cs
  let cs ← skip? ':' cs
  let (second, cs) ← twoDigits? cs
  let (fraction, cs) ← fraction? cs
  let offset ← suffix? cs
  some ⟨date, hour, minute, second, fraction, offset⟩

section Pieces

variable {rest : List Char} {n : Nat} {year offset : Int} {date : Date}

def NoDigit (rest : List Char) : Prop := ∀ c, rest.head? = some c → c.isDigit = false

lemma takeWhile_digits {ds : List Char} (digits : ∀ c ∈ ds, c.isDigit = true)
    (stop : NoDigit rest) : (ds ++ rest).takeWhile Char.isDigit = ds := by
  rw [List.takeWhile_append_of_pos digits]
  cases rest with
  | nil => simp
  | cons c rest => rw [List.takeWhile_cons_of_neg (by simp [stop c rfl]), List.append_nil]

lemma dropWhile_digits {ds : List Char} (digits : ∀ c ∈ ds, c.isDigit = true)
    (stop : NoDigit rest) : (ds ++ rest).dropWhile Char.isDigit = rest := by
  rw [List.dropWhile_append_of_pos digits]
  cases rest with
  | nil => rfl
  | cons c rest => rw [List.dropWhile_cons_of_neg (by simp [stop c rfl])]

lemma twoDigits?_padded (h : n < 100) (rest : List Char) :
    twoDigits? ((Text.padded 2 n).toList ++ rest) = some (n, rest) := by
  have length : (Text.padded 2 n).toList.length = 2 := Text.length_padded (by decide) h
  obtain ⟨a, b, pair⟩ := List.length_eq_two.1 length
  have value := Text.ofDigitChars_padded 2 n
  have digits (c : Char) (mem : c ∈ [a, b]) : c.isDigit = true :=
    Text.isDigit_of_mem_padded (pair ▸ mem)
  rw [pair] at value ⊢
  exact twoDigits?_eq_some.2 ⟨a, b, ⟨digits a (by simp), digits b (by simp), value.symm⟩, rfl⟩

lemma longYear?_padded (n : Nat) (stop : NoDigit rest) :
    longYear? ((Text.padded 4 n).toList ++ rest) = some (n, rest) := by
  have digits : ∀ c ∈ (Text.padded 4 n).toList, c.isDigit = true :=
    fun c => Text.isDigit_of_mem_padded
  simp only [longYear?, takeWhile_digits digits stop, dropWhile_digits digits stop,
    Text.ofDigitChars_padded, if_pos (Text.le_length_padded 4 n)]

lemma year?_padded (h : n < 10000) (rest : List Char) :
    year? ((Text.padded 4 n).toList ++ rest) = some ((n : Int), rest) := by
  have length : (Text.padded 4 n).toList.length = 4 := Text.length_padded (by decide) h
  obtain ⟨a, b, c, d, four⟩ := List.length_eq_four.1 length
  have value := Text.ofDigitChars_padded 4 n
  have digits (e : Char) (mem : e ∈ [a, b, c, d]) : e.isDigit = true :=
    Text.isDigit_of_mem_padded (four ▸ mem)
  have unsigned (sign : Char) (h : sign.isDigit = false) : a ≠ sign := by
    rintro rfl
    rw [digits a (by simp)] at h
    cases h
  have high := twoDigits?_eq_some.2 ⟨a, b, ⟨digits a (by simp), digits b (by simp), rfl⟩,
    show a :: b :: c :: d :: rest = _ from rfl⟩
  have low := twoDigits?_eq_some.2 ⟨c, d, ⟨digits c (by simp), digits d (by simp), rfl⟩,
    show c :: d :: rest = _ from rfl⟩
  have whole : 100 * Nat.ofDigitChars 10 [a, b] 0 + Nat.ofDigitChars 10 [c, d] 0 = n := by
    rw [← value, four]
    simp only [Nat.ofDigitChars_cons, Nat.ofDigitChars_nil]
    omega
  have split : year? (a :: b :: c :: d :: rest) = (twoDigits? (a :: b :: c :: d :: rest)).bind
      fun p => (twoDigits? p.2).bind fun q => some (100 * (p.1 : Int) + q.1, q.2) := by
    rw [year?]
    · rfl
    · exact fun _ same => unsigned '+' rfl (List.cons.inj same).1
    · exact fun _ same => unsigned '-' rfl (List.cons.inj same).1
  rw [four]
  simp only [List.cons_append, List.nil_append, split, high, low, Option.bind_some, ← whole]
  push_cast
  rfl

lemma year?_yearText (year : Int) (stop : NoDigit rest) :
    year? ((yearText year).toList ++ rest) = some (year, rest) := by
  have long (n : Nat) := longYear?_padded n stop
  unfold yearText
  split
  · rename_i plain
    rw [year?_padded (by omega), Int.toNat_of_nonneg plain.1]
  · rename_i signed
    by_cases negative : year < 0
    · have value : -(year.natAbs : Int) = year := by omega
      rw [if_pos negative, String.toList_append]
      simp only [String.reduceToList, List.cons_append, List.nil_append, year?, long,
        Option.map_some, value]
    · have value : (year.natAbs : Int) = year := by omega
      rw [if_neg negative, String.toList_append]
      simp only [String.reduceToList, List.cons_append, List.nil_append, year?, long,
        Option.map_some, value]

lemma skip?_cons (c : Char) (rest : List Char) : skip? c (c :: rest) = some rest := if_pos rfl

lemma noDigit_cons {c : Char} (h : c.isDigit = false) : NoDigit (c :: rest) := by
  intro d head
  cases head
  exact h

lemma date?_dateText (month : date.month < 100) (day : date.day < 100) (rest : List Char) :
    date? ((dateText date).toList ++ rest) = some (date, rest) := by
  have pieces : (dateText date).toList ++ rest = (yearText date.year).toList ++
      '-' :: ((Text.padded 2 date.month).toList ++
        '-' :: ((Text.padded 2 date.day).toList ++ rest)) := by
    simp [dateText, toString]
  rw [pieces, date?]
  have dash (cs : List Char) : NoDigit ('-' :: cs) := noDigit_cons rfl
  simp only [year?_yearText _ (dash _), skip?_cons, twoDigits?_padded month,
    twoDigits?_padded day, Option.bind_eq_bind, Option.bind_some]

-- How many digits of a fraction are exact, of the numbers that are written.
def Exact (nanos digits : Nat) : Prop :=
  (digits = 0 ∨ digits = 3 ∨ digits = 6 ∨ digits = 9) ∧ 10 ^ (9 - digits) ∣ nanos

def pointed (digits : List Char) : List Char := if digits = [] then [] else '.' :: digits

lemma fraction?_pointed {digits : List Char} (all : ∀ c ∈ digits, c.isDigit = true)
    (stop : NoDigit rest) (point : rest.head? ≠ some '.') :
    fraction? (pointed digits ++ rest) = some (digits, rest) := by
  unfold pointed
  split
  · rename_i none
    subst none
    rw [List.nil_append, fraction?]
    rintro cs rfl
    exact point rfl
  · rename_i some
    have filled : digits.isEmpty = false := by simpa using some
    simp only [List.cons_append, fraction?, takeWhile_digits all stop, dropWhile_digits all stop,
      filled, if_neg Bool.false_ne_true]

structure Fraction (nanos : Nat) (digits : List Char) : Prop where
  all : ∀ c ∈ digits, c.isDigit = true
  least : IsLeast {k | Exact nanos k} digits.length
  value : Nat.ofDigitChars 10 digits 0 * 10 ^ (9 - digits.length) = nanos

lemma fraction_padded {width m : Nat} (positive : 0 < width) (short : m < 10 ^ width)
    (value : m * 10 ^ (9 - width) = n) (least : IsLeast {k | Exact n k} width) :
    ∃ digits, ("." ++ Text.padded width m).toList = pointed digits ∧ Fraction n digits := by
  have length := Text.length_padded positive short
  have filled : (Text.padded width m).toList ≠ [] := by
    intro empty
    rw [empty] at length
    exact absurd length positive.ne
  refine ⟨(Text.padded width m).toList, ?_, fun c => Text.isDigit_of_mem_padded, ?_, ?_⟩
  · rw [pointed, if_neg filled, String.toList_append]
    rfl
  · rwa [length]
  · rw [length, Text.ofDigitChars_padded, value]

lemma least_exact {k : Nat} (exact : Exact n (k + 3)) (before : ¬ Exact n k) :
    IsLeast {k | Exact n k} (k + 3) := by
  refine ⟨exact, fun j found => Nat.not_lt.1 fun less => before ?_⟩
  obtain ⟨written, divides⟩ := found
  have written' := exact.1
  have longer : 9 - k ≤ 9 - j := by omega
  exact ⟨by omega, (Nat.pow_dvd_pow 10 longer).trans divides⟩

lemma exists_fraction (h : n < 1000000000) :
    ∃ digits, (fractionText n).toList = pointed digits ∧ Fraction n digits := by
  unfold fractionText
  split
  · rename_i zero
    subst zero
    exact ⟨[], rfl, by simp, ⟨⟨.inl rfl, Nat.dvd_zero _⟩, fun _ _ => Nat.zero_le _⟩, rfl⟩
  rename_i nonzero
  split
  · rename_i millis
    exact fraction_padded (by decide) (by omega) (by omega)
      (least_exact ⟨.inr (.inl rfl), Nat.dvd_of_mod_eq_zero millis⟩
        fun exact => nonzero (Nat.eq_zero_of_dvd_of_lt exact.2 h))
  rename_i no_millis
  split
  · rename_i micros
    exact fraction_padded (by decide) (by omega) (by omega)
      (least_exact ⟨.inr (.inr (.inl rfl)), Nat.dvd_of_mod_eq_zero micros⟩
        fun exact => no_millis (Nat.mod_eq_zero_of_dvd exact.2))
  · rename_i no_micros
    exact fraction_padded (by decide) h (Nat.mul_one n)
      (least_exact ⟨.inr (.inr (.inr rfl)), Nat.one_dvd n⟩
        fun exact => no_micros (Nat.mod_eq_zero_of_dvd exact.2))

lemma suffix?_of_sign {c : Char} {sign : Int} {hours minutes : Nat} (signed : IsSign c sign)
    (hours_le : hours ≤ 23) (minutes_le : minutes ≤ 59) :
    suffix? (c :: ((Text.padded 2 hours).toList ++ ':' :: (Text.padded 2 minutes).toList)) =
      some (sign * (3600 * hours + 60 * minutes)) := by
  have last := twoDigits?_padded (n := minutes) (by omega) []
  rw [List.append_nil] at last
  rw [suffix?]
  · have small : hours < 100 := by omega
    simp only [offsetSign?_eq_some.2 ⟨c, signed, rfl⟩, twoDigits?_padded small, skip?_cons, last,
      Option.bind_eq_bind, Option.bind_some]
    simp [hours_le, minutes_le]
  · intro zulu
    cases signed <;> cases zulu

lemma suffix?_offsetText (whole : 60 ∣ offset) (short : offset.natAbs < 86400) :
    suffix? (offsetText offset).toList = some offset := by
  obtain ⟨minutes, rounded⟩ : ∃ minutes, minutes = (offset.natAbs + 30) / 60 := ⟨_, rfl⟩
  have exact : offset.natAbs = 60 * minutes := by omega
  have hours_le : minutes / 60 ≤ 23 := by omega
  have minutes_le : minutes % 60 ≤ 59 := by omega
  have pieces : (offsetText offset).toList = (if offset < 0 then '-' else '+') ::
      ((Text.padded 2 (minutes / 60)).toList ++ ':' :: (Text.padded 2 (minutes % 60)).toList) := by
    rw [rounded, offsetText]
    split <;> simp [toString]
  rw [pieces]
  split
  · rw [suffix?_of_sign .hyphen hours_le minutes_le]
    congr 1
    omega
  · rw [suffix?_of_sign .plus hours_le minutes_le]
    congr 1
    omega

lemma head_of_suffix (h : suffix? rest = some offset) :
    NoDigit rest ∧ rest.head? ≠ some '.' := by
  rw [suffix?.eq_def] at h
  split at h
  · exact ⟨noDigit_cons rfl, by decide⟩
  · simp only [Option.bind_eq_bind, Option.bind_eq_some_iff] at h
    obtain ⟨⟨sign, tail⟩, signRead, -⟩ := h
    obtain ⟨c, signed, rfl⟩ := offsetSign?_eq_some.1 signRead
    cases signed <;> exact ⟨noDigit_cons rfl, by simp⟩

lemma toList_localText (seconds : Int) (nanos : Nat) : (localText seconds nanos).toList =
    (dateText (Date.ofDays (seconds / 86400))).toList ++
      'T' :: ((clockText (seconds % 86400).toNat (nanos / 1000000000)).toList ++
        (fractionText (nanos % 1000000000)).toList) := by
  simp [localText, toString]

lemma toList_clockText (second leap : Nat) : (clockText second leap).toList =
    (Text.padded 2 (second / 3600)).toList ++ ':' :: ((Text.padded 2 (second / 60 % 60)).toList ++
      ':' :: (Text.padded 2 (second % 60 + leap)).toList) := by
  simp [clockText, toString]

lemma monthLength_le (year : Int) (month : Nat) : monthLength year month ≤ 31 := by
  unfold monthLength leapDays
  split_ifs <;> decide

def reading (seconds : Int) (nanos : Nat) (digits : List Char) (offset : Int) : Reading where
  date := Date.ofDays (seconds / 86400)
  hour := (seconds % 86400).toNat / 3600
  minute := (seconds % 86400).toNat / 60 % 60
  second := (seconds % 86400).toNat % 60 + nanos / 1000000000
  fraction := digits
  offset := offset

lemma read?_localText {seconds : Int} {nanos : Nat} {ending : String}
    (suffix : suffix? ending.toList = some offset) (short : nanos < 2000000000) :
    ∃ digits, Fraction (nanos % 1000000000) digits ∧
      read? (localText seconds nanos ++ ending) = some (reading seconds nanos digits offset) := by
  have valid := Date.ofDays_valid (seconds / 86400)
  have month : (Date.ofDays (seconds / 86400)).month < 100 := valid.month_le.trans_lt (by decide)
  have day : (Date.ofDays (seconds / 86400)).day < 100 := by
    have := valid.day_le.trans (monthLength_le _ _)
    omega
  have hour : (seconds % 86400).toNat / 3600 < 100 := by omega
  have minute : (seconds % 86400).toNat / 60 % 60 < 100 := by omega
  have second : (seconds % 86400).toNat % 60 + nanos / 1000000000 < 100 := by omega
  obtain ⟨digits, written, fraction⟩ := exists_fraction (n := nanos % 1000000000) (by omega)
  obtain ⟨stop, point⟩ := head_of_suffix suffix
  refine ⟨digits, fraction, ?_⟩
  rw [read?, String.toList_append, toList_localText, toList_clockText, written]
  simp only [List.append_assoc, List.cons_append, date?_dateText month day, skip?_cons,
    twoDigits?_padded hour, twoDigits?_padded minute, twoDigits?_padded second,
    fraction?_pointed fraction.all stop point, suffix, Option.bind_eq_bind, Option.bind_some,
    reading]

lemma reading_valid {seconds : Int} {nanos : Nat} {digits : List Char}
    (fraction : Fraction (nanos % 1000000000) digits) (short : nanos < 2000000000)
    (offset_lt : offset.natAbs < 86400) :
    (reading seconds nanos digits offset).Valid := by
  refine ⟨Date.ofDays_valid _, ?_, ?_, ?_, ?_, offset_lt⟩
  · simp only [reading]
    omega
  · simp only [reading]
    omega
  · simp only [reading]
    omega
  · obtain eq | eq | eq | eq := fraction.least.1.1 <;> simp [reading, eq]

lemma zoned_reading {seconds : Int} {nanos : Nat} {digits : List Char}
    (fraction : Fraction (nanos % 1000000000) digits) (short : nanos < 2000000000)
    (leap : 1000000000 ≤ nanos → seconds % 60 = 59) :
    (reading seconds nanos digits offset).zoned = ⟨⟨seconds - offset, nanos⟩, offset⟩ := by
  have date := Date.dayNumber_ofDays (seconds / 86400)
  have value : (reading seconds nanos digits offset).nanos = nanos % 1000000000 := fraction.value
  have day : (reading seconds nanos digits offset).secondOfDay = seconds % 86400 := by
    simp only [Reading.secondOfDay, reading]
    omega
  have second : (reading seconds nanos digits offset).second = 60 ↔ 1000000000 ≤ nanos := by
    simp only [reading]
    omega
  have start : Date.dayNumber (Date.ofDays (seconds / 86400)) * 86400 + seconds % 86400 =
      seconds := by
    rw [date]
    omega
  have nano : (reading seconds nanos digits offset).nanos +
      (if (reading seconds nanos digits offset).second = 60 then 1000000000 else 0) = nanos := by
    rw [value, if_congr second rfl rfl]
    split <;> omega
  rw [Reading.zoned, nano, day]
  simp only [reading, start]

end Pieces

end Time

-- An instant that can be stored. The nanoseconds go beyond a second only in a leap second.
structure Timestamp.Proper (t : Timestamp) : Prop where
  inRange : Time.InRange t.seconds
  nanos_lt : t.nanos < 2000000000
  leap : 1000000000 ≤ t.nanos → t.seconds % 60 = 59

lemma Timestamp.zuluText_utc {t : Timestamp} (proper : t.Proper) :
    t.utc.zuluText = .ok t.zuluText := by
  have stays : t.utc.localSeconds = t.seconds := Int.add_zero _
  rw [ZonedTime.zuluText, stays, if_pos proper.inRange]
  rfl

namespace ZonedTime

open Time

def Says (text : String) (z : ZonedTime) : Prop :=
  ∃ r, read? text = some r ∧ r.Valid ∧ r.zoned = z ∧
    IsLeast {k | Exact (z.instant.nanos % 1000000000) k} r.fraction.length

variable {z : ZonedTime}

lemma says_clock {ending : String} (proper : z.instant.Proper) (whole : 60 ∣ z.offset)
    (short : z.offset.natAbs < 86400) (suffix : suffix? ending.toList = some z.offset) :
    Says (z.clock ++ ending) z := by
  have leap : 1000000000 ≤ z.instant.nanos → z.localSeconds % 60 = 59 := by
    intro h
    have := proper.leap h
    rw [localSeconds]
    omega
  obtain ⟨digits, fraction, read⟩ := read?_localText suffix proper.nanos_lt
  refine ⟨_, read, reading_valid fraction proper.nanos_lt short, ?_, fraction.least⟩
  rw [zoned_reading fraction proper.nanos_lt leap, localSeconds, Int.add_sub_cancel]

lemma says_text (proper : z.instant.Proper) (whole : 60 ∣ z.offset)
    (short : z.offset.natAbs < 86400) : Says z.text z :=
  says_clock proper whole short (suffix?_offsetText whole short)

lemma says_zuluForm (proper : z.instant.Proper) (whole : 60 ∣ z.offset)
    (short : z.offset.natAbs < 86400) : Says z.zuluForm z := by
  refine says_clock proper whole short ?_
  split
  · rename_i utc
    rw [utc]
    rfl
  · exact suffix?_offsetText whole short

lemma zuluText_eq_ok {text : String} :
    z.zuluText = .ok text ↔ InRange z.localSeconds ∧ text = z.zuluForm := by
  unfold zuluText
  split <;> simp_all [eq_comm]

lemma zuluText_eq_error {panic : Panic} :
    z.zuluText = .error panic ↔ ¬ InRange z.localSeconds ∧ panic = outOfRange := by
  unfold zuluText
  split <;> simp_all [eq_comm]

end ZonedTime

namespace LockListing

variable {x : LockListing}

def Records (x : LockListing) (text : String) : Prop :=
  ∃ fields, x.toJson? = .ok (.obj fields) ∧ fields.lookup "acquire_time" = some (.str text)

lemma records_iff {text : String} : x.Records text ↔ x.acquireTime.zuluText = .ok text := by
  constructor
  · rintro ⟨fields, written, found⟩
    unfold toJson? at written
    cases time : x.acquireTime.zuluText with
    | error panic => simp [time, Except.map] at written
    | ok form =>
      rw [time] at written
      cases written
      cases found
      rfl
  · intro time
    exact ⟨x.lock.commonFields (.str text), by rw [toJson?, time]; rfl, rfl⟩

lemma toJson?_eq_error {panic : Panic} :
    x.toJson? = .error panic ↔ x.acquireTime.zuluText = .error panic := by
  unfold toJson?
  cases x.acquireTime.zuluText <;> simp [Except.map]

def millennial : Lock :=
  (NewLock.mk "a" ⟨"OSL", "quay", "editor"⟩ {}).toLock ⟨253402282800, 120000000⟩

def lastOfAll : Lock :=
  (NewLock.mk "a" ⟨"OSL", "quay", "editor"⟩ {}).toLock ⟨Time.lastSecond, 999999999⟩

end LockListing

end LockRegistry
