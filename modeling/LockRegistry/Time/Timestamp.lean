import LockRegistry.Text.Numeral
import LockRegistry.Time.Civil

namespace LockRegistry

-- The nanoseconds of a leap second go on from those of the second before it, beyond a thousand
-- million.
structure Timestamp where
  seconds : Int
  nanos : Nat
deriving DecidableEq, Repr, Inhabited

namespace Timestamp

def ofNanos (n : Int) : Timestamp := ⟨n / 1000000000, (n % 1000000000).toNat⟩

def toNanos (t : Timestamp) : Int := t.seconds * 1000000000 + t.nanos

def ofMillis (ms : Int) : Timestamp := ofNanos (ms * 1000000)

def ofMicros (us : Int) : Timestamp := ofNanos (us * 1000)

def later (t : Timestamp) (n : Nat) : Timestamp := ofNanos (t.toNanos + n)

theorem toNanos_ofNanos (n : Int) : (ofNanos n).toNanos = n := by
  simp only [ofNanos, toNanos]
  omega

theorem toNanos_later (t : Timestamp) (n : Nat) : (t.later n).toNanos = t.toNanos + n :=
  toNanos_ofNanos _

end Timestamp

-- The offset is in seconds east of UTC.
structure ZonedTime where
  instant : Timestamp
  offset : Int
deriving DecidableEq, Repr, Inhabited

namespace Time

def firstSecond : Int := -8334601228800

def lastSecond : Int := 8210266876799

-- Dates are kept from the year -262143 to the year 262142.
def InRange (seconds : Int) : Prop := firstSecond ≤ seconds ∧ seconds ≤ lastSecond

instance (seconds : Int) : Decidable (InRange seconds) := inferInstanceAs (Decidable (_ ∧ _))

example : Date.ofDays (firstSecond / 86400) = ⟨-262143, 1, 1⟩ ∧
    Date.ofDays (lastSecond / 86400) = ⟨262142, 12, 31⟩ := by decide

def yearText (year : Int) : String :=
  if 0 ≤ year ∧ year ≤ 9999 then Text.padded 4 year.toNat
  else (if year < 0 then "-" else "+") ++ Text.padded 4 year.natAbs

def dateText (d : Date) : String :=
  s!"{yearText d.year}-{Text.padded 2 d.month}-{Text.padded 2 d.day}"

-- A leap second is the second after the one that it follows.
def clockText (secondOfDay leap : Nat) : String :=
  let h := Text.padded 2 (secondOfDay / 3600)
  let m := Text.padded 2 (secondOfDay / 60 % 60)
  let s := Text.padded 2 (secondOfDay % 60 + leap)
  s!"{h}:{m}:{s}"

def fractionText (nanos : Nat) : String :=
  if nanos = 0 then ""
  else if nanos % 1000000 = 0 then "." ++ Text.padded 3 (nanos / 1000000)
  else if nanos % 1000 = 0 then "." ++ Text.padded 6 (nanos / 1000)
  else "." ++ Text.padded 9 nanos

-- Rounded to the nearest minute away from zero.
def offsetText (offset : Int) : String :=
  let minutes := (offset.natAbs + 30) / 60
  let h := Text.padded 2 (minutes / 60)
  let m := Text.padded 2 (minutes % 60)
  (if offset < 0 then "-" else "+") ++ s!"{h}:{m}"

def localText (seconds : Int) (nanos : Nat) : String :=
  let date := dateText (Date.ofDays (seconds / 86400))
  let clock := clockText (seconds % 86400).toNat (nanos / 1000000000)
  let fraction := fractionText (nanos % 1000000000)
  s!"{date}T{clock}{fraction}"

end Time

-- An abort of the program, with its text, where it should have given a value.
structure Panic where
  message : String
deriving DecidableEq, Repr

namespace ZonedTime

def localSeconds (z : ZonedTime) : Int := z.instant.seconds + z.offset

def clock (z : ZonedTime) : String := Time.localText z.localSeconds z.instant.nanos

def text (z : ZonedTime) : String := z.clock ++ Time.offsetText z.offset

def zuluForm (z : ZonedTime) : String :=
  z.clock ++ if z.offset = 0 then "Z" else Time.offsetText z.offset

def outOfRange : Panic := ⟨"Local time out of range for `NaiveDateTime`"⟩

-- For a record the local time is made a date and time of its own, where the text takes what is left
-- over from the last day or the first.
def zuluText (z : ZonedTime) : Except Panic String :=
  if Time.InRange z.localSeconds then .ok z.zuluForm else .error outOfRange

end ZonedTime

namespace Timestamp

def utc (t : Timestamp) : ZonedTime := ⟨t, 0⟩

def text (t : Timestamp) : String := t.utc.text

def zuluText (t : Timestamp) : String := t.utc.zuluForm

end Timestamp

end LockRegistry
