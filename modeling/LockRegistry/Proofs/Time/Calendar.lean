import LockRegistry.Time.Civil
import Mathlib.Algebra.BigOperators.Intervals
import Mathlib.Tactic.IntervalCases
import Mathlib.Tactic.Lemma

/-! The calendar by the lengths of its years and months. -/

namespace LockRegistry.Time

def IsLeap (year : Int) : Prop := year % 4 = 0 ∧ (year % 100 = 0 → year % 400 = 0)

instance (year : Int) : Decidable (IsLeap year) := inferInstanceAs (Decidable (_ ∧ _))

def leapDays (year : Int) : Int := if IsLeap year then 1 else 0

def yearLength (year : Int) : Int := 365 + leapDays year

def monthLength (year : Int) (month : Nat) : Int :=
  if month = 2 then 28 + leapDays year
  else if month = 4 ∨ month = 6 ∨ month = 9 ∨ month = 11 then 30
  else 31

def daysToYear (year : Int) : Int :=
  ∑ k ∈ Finset.range (year - 1970).toNat, yearLength (1970 + k) -
    ∑ k ∈ Finset.range (1970 - year).toNat, yearLength (1969 - k)

def daysToMonth (year : Int) (month : Nat) : Int := ∑ m ∈ Finset.Ico 1 month, monthLength year m

namespace Date

structure Valid (d : Date) : Prop where
  month_pos : 1 ≤ d.month
  month_le : d.month ≤ 12
  day_pos : 1 ≤ d.day
  day_le : d.day ≤ monthLength d.year d.month

def dayNumber (d : Date) : Int := daysToYear d.year + daysToMonth d.year d.month + (d.day - 1)

end Date

lemma leapDays_eq (year : Int) :
    leapDays year = (year / 4 - (year - 1) / 4) - (year / 100 - (year - 1) / 100) +
      (year / 400 - (year - 1) / 400) := by
  by_cases leap : IsLeap year
  · rw [leapDays, if_pos leap]
    unfold IsLeap at leap
    omega
  · rw [leapDays, if_neg leap]
    unfold IsLeap at leap
    omega

lemma daysToYear_eq (year : Int) :
    daysToYear year =
      365 * (year - 1970) + (year - 1) / 4 - (year - 1) / 100 + (year - 1) / 400 - 477 := by
  have forwards (n : Nat) : ∑ k ∈ Finset.range n, yearLength (1970 + k) =
      365 * (n : Int) + (1969 + n) / 4 - (1969 + n) / 100 + (1969 + n) / 400 - 477 := by
    induction n with
    | zero => rfl
    | succ n ih =>
      rw [Finset.sum_range_succ, ih, yearLength, leapDays_eq]
      push_cast
      omega
  have back (n : Nat) : ∑ k ∈ Finset.range n, yearLength (1969 - k) =
      365 * (n : Int) - (1969 - n) / 4 + (1969 - n) / 100 - (1969 - n) / 400 + 477 := by
    induction n with
    | zero => rfl
    | succ n ih =>
      rw [Finset.sum_range_succ, ih, yearLength, leapDays_eq]
      push_cast
      omega
  rw [daysToYear, forwards, back]
  omega

namespace Date

variable {d : Date}

lemma cycle_marches (year : Int) :
    year / 400 * 146097 + (year % 400 * 365 + year % 400 / 4 - year % 400 / 100) =
      365 * year + year / 4 - year / 100 + year / 400 := by
  have fours : year % 400 / 4 = year / 4 - 100 * (year / 400) := by omega
  have hundreds : year % 400 / 100 = year / 100 - 4 * (year / 400) := by omega
  omega

lemma toDays_eq_dayNumber (month_pos : 1 ≤ d.month) (month_le : d.month ≤ 12) :
    d.toDays = d.dayNumber := by
  obtain ⟨year, month, day⟩ := d
  simp only at month_pos month_le
  have now := cycle_marches year
  have before := cycle_marches (year - 1)
  have leap := leapDays_eq year
  rw [toDays, dayNumber, daysToYear_eq, daysToMonth]
  simp only [epochShift, cycleDays, monthStart]
  interval_cases month
  all_goals
    simp [Finset.sum_Ico_succ_top, monthLength]
    omega

-- A day by the parts of its number, counted from a first of March at the start of a cycle: cycles
-- of 400 years, centuries, spans of four years, years and days. Each part is as long as the others
-- allow, the last in a larger one being longer by a leap day, or shorter for want of it.
structure Parts (number cycle century span year day : Int) : Prop where
  sum : number + epochShift = 146097 * cycle + 36524 * century + 1461 * span + 365 * year + day
  century_nonneg : 0 ≤ century
  century_le : century ≤ 3
  span_nonneg : 0 ≤ span
  span_le : span ≤ 24
  year_nonneg : 0 ≤ year
  year_le : year ≤ 3
  day_nonneg : 0 ≤ day
  day_le : day ≤ 365
  leap : day = 365 → year = 3 ∧ (span = 24 → century = 3)

variable {n cycle century span year day : Int}

lemma exists_parts (n : Int) :
    ∃ cycle century span year day, Parts n cycle century span year day := by
  obtain ⟨d, dayOfCycle⟩ : ∃ d, d = (n + epochShift) % 146097 := ⟨_, rfl⟩
  obtain ⟨c, century⟩ : ∃ c, c = min (d / 36524) 3 := ⟨_, rfl⟩
  obtain ⟨s, span⟩ : ∃ s, s = (d - 36524 * c) / 1461 := ⟨_, rfl⟩
  obtain ⟨y, year⟩ : ∃ y, y = min ((d - 36524 * c - 1461 * s) / 365) 3 := ⟨_, rfl⟩
  refine ⟨(n + epochShift) / 146097, c, s, y, d - 36524 * c - 1461 * s - 365 * y, ?_⟩
  constructor <;> omega

lemma Parts.spans (h : Parts n cycle century span year day) :
    (100 * century + 4 * span + year) / 4 = 25 * century + span := by
  have := h.year_nonneg
  have := h.year_le
  omega

lemma Parts.centuries (h : Parts n cycle century span year day) :
    (100 * century + 4 * span + year) / 100 = century := by
  obtain ⟨-, -, -, s0, s24, y0, y3, -, -, -⟩ := h
  omega

lemma Parts.yearOfCycle (h : Parts n cycle century span year day) (d : Int)
    (sum : d = 36524 * century + 1461 * span + 365 * year + day) :
    (d - d / 1460 + d / 36524 - d / 146096) / 365 = 100 * century + 4 * span + year := by
  obtain ⟨-, c0, c3, s0, s24, y0, y3, d0, d365, leap⟩ := h
  -- A day is lost when the days of the leap years so far complete another span.
  obtain ⟨e, lost⟩ : ∃ e, e = (24 * century + span + 365 * year + day) / 1460 := ⟨_, rfl⟩
  have spans : d / 1460 = 25 * century + span + e := by omega
  have centuries : d / 36524 - d / 146096 = century := by
    by_cases full : span = 24 ∧ day = 365
    · obtain ⟨rfl, rfl⟩ := full
      obtain ⟨rfl, last⟩ := leap rfl
      obtain rfl := last rfl
      subst sum
      rfl
    · have rest : 1461 * span + 365 * year + day < 36524 := by omega
      have cycles : d / 146096 = 0 := by omega
      have hundreds : d / 36524 = century := by
        clear spans lost
        omega
      omega
  have corrected : d - d / 1460 + d / 36524 - d / 146096 =
      365 * (100 * century + 4 * span + year) + (day - e) := by omega
  have within : 0 ≤ day - e ∧ day - e < 365 := by omega
  omega

lemma Parts.ofDays_eq (h : Parts n cycle century span year day) :
    ∃ m : Int, 0 ≤ m ∧ m ≤ 11 ∧ monthStart m ≤ day ∧ day < monthStart (m + 1) ∧
      ofDays n = {
        year := 100 * century + 4 * span + year + 400 * cycle + if m < 10 then 0 else 1
        month := (if m < 10 then m + 3 else m - 9).toNat
        day := (day - monthStart m + 1).toNat } := by
  have ⟨sum, c0, c3, s0, s24, y0, y3, d0, d365, leap⟩ := h
  have quotient : (n + epochShift) / cycleDays = cycle := by
    rw [cycleDays]
    omega
  have remainder : (n + epochShift) % cycleDays =
      36524 * century + 1461 * span + 365 * year + day := by
    rw [cycleDays]
    omega
  have dayOfYear : 36524 * century + 1461 * span + 365 * year + day -
      (365 * (100 * century + 4 * span + year) + (100 * century + 4 * span + year) / 4 -
        (100 * century + 4 * span + year) / 100) = day := by
    rw [h.spans, h.centuries]
    omega
  refine ⟨(5 * day + 2) / 153, by omega, by omega, by simp only [monthStart]; omega,
    by simp only [monthStart]; omega, ?_⟩
  have inYear := h.yearOfCycle (36524 * century + 1461 * span + 365 * year + day) rfl
  simp only [ofDays, quotient, remainder, inYear, dayOfYear, mk.injEq, and_true, Int.add_right_inj]
  split <;> omega

lemma Parts.leap_year (h : Parts n cycle century span year day) (last : day = 365) :
    leapDays (100 * century + 4 * span + year + 400 * cycle + 1) = 1 := by
  obtain ⟨-, c0, c3, s0, s24, -, -, -, -, leap⟩ := h
  obtain ⟨rfl, centuries⟩ := leap last
  rw [leapDays, if_pos]
  unfold IsLeap
  omega

lemma leapDays_nonneg (year : Int) : 0 ≤ leapDays year := by
  unfold leapDays
  split <;> decide

lemma ofDays_valid (n : Int) : (ofDays n).Valid := by
  obtain ⟨cycle, century, span, year, day, parts⟩ := exists_parts n
  obtain ⟨m, m0, m11, start, stop, eq⟩ := parts.ofDays_eq
  have leap := parts.leap_year
  have least := parts.day_nonneg
  have greatest := parts.day_le
  rw [eq]
  have nonneg := leapDays_nonneg (100 * century + 4 * span + year + 400 * cycle + 1)
  interval_cases m <;> simp only [monthStart] at start stop <;>
    constructor <;> simp [monthLength, monthStart] <;> omega

lemma dayNumber_ofDays (n : Int) : (ofDays n).dayNumber = n := by
  have valid := ofDays_valid n
  rw [← toDays_eq_dayNumber valid.month_pos valid.month_le]
  obtain ⟨cycle, century, span, year, day, parts⟩ := exists_parts n
  obtain ⟨m, m0, m11, start, stop, eq⟩ := parts.ofDays_eq
  have fours := parts.spans
  have hundreds := parts.centuries
  obtain ⟨sum, c0, c3, s0, s24, y0, y3, d0, d365, leap⟩ := parts
  have cycles : (100 * century + 4 * span + year + 400 * cycle) / 400 = cycle := by omega
  have rest : (100 * century + 4 * span + year + 400 * cycle) % 400 =
      100 * century + 4 * span + year := by omega
  rw [epochShift] at sum
  rw [eq]
  interval_cases m <;> simp only [monthStart] at start stop <;>
    simp [toDays, monthStart, cycles, rest, fours, hundreds, cycleDays, epochShift] <;> omega

end Date

end LockRegistry.Time
