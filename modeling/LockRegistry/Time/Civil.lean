/-! The Gregorian calendar, as a count of days from 1970-01-01. Years are taken to begin in March,
so that the leap day is the last day of a year. -/

namespace LockRegistry.Time

structure Date where
  year : Int
  month : Nat
  day : Nat
deriving DecidableEq, Repr

namespace Date

-- Days from 0000-03-01 to 1970-01-01.
def epochShift : Int := 719468

def cycleDays : Int := 146097

-- The day of the March year on which the `m`-th month after March begins.
def monthStart (m : Int) : Int := (153 * m + 2) / 5

def ofDays (days : Int) : Date :=
  let shifted := days + epochShift
  let cycle := shifted / cycleDays
  let dayOfCycle := shifted % cycleDays
  let yearOfCycle :=
    (dayOfCycle - dayOfCycle / 1460 + dayOfCycle / 36524 - dayOfCycle / 146096) / 365
  let dayOfYear := dayOfCycle - (365 * yearOfCycle + yearOfCycle / 4 - yearOfCycle / 100)
  let m := (5 * dayOfYear + 2) / 153
  let month := if m < 10 then m + 3 else m - 9
  { year := yearOfCycle + 400 * cycle + if month ≤ 2 then 1 else 0
    month := month.toNat
    day := (dayOfYear - monthStart m + 1).toNat }

def toDays (d : Date) : Int :=
  let year := d.year - if d.month ≤ 2 then 1 else 0
  let cycle := year / 400
  let yearOfCycle := year % 400
  let m : Int := if d.month ≤ 2 then d.month + 9 else d.month - 3
  let dayOfYear := monthStart m + d.day - 1
  let dayOfCycle := yearOfCycle * 365 + yearOfCycle / 4 - yearOfCycle / 100 + dayOfYear
  cycle * cycleDays + dayOfCycle - epochShift

end Date

-- Sunday is zero.
def weekday (days : Int) : Int := (days + 4) % 7

def sundayFrom (days : Int) : Int := days + (7 - weekday days) % 7

end LockRegistry.Time
