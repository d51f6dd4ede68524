import LockRegistry.Text.Blank
import LockRegistry.Time.Timestamp

namespace LockRegistry

namespace Time

inductive Sunday where
  | nth (n : Nat)
  | last
deriving DecidableEq, Repr

inductive Reference where
  | utc
  | standard
  | daylight
deriving DecidableEq, Repr

structure Change where
  month : Nat
  sunday : Sunday
  second : Int
  reference : Reference
deriving DecidableEq, Repr

structure Daylight where
  offset : Int
  start : Change
  stop : Change
deriving DecidableEq, Repr

structure ZoneRule where
  standard : Int
  daylight : Option Daylight := none
deriving DecidableEq, Repr

structure NamedZone where
  name : String
  rule : ZoneRule
  -- those of former times in their order, each with the second in which it ended
  former : List (Int × ZoneRule) := []
deriving DecidableEq, Repr

def Sunday.day (s : Sunday) (year : Int) (month : Nat) : Int :=
  match s with
  | .nth n => sundayFrom (Date.toDays ⟨year, month, 1⟩) + 7 * (n - 1)
  | .last =>
    let next : Date := if month = 12 then ⟨year + 1, 1, 1⟩ else ⟨year, month + 1, 1⟩
    sundayFrom (next.toDays - 7)

def Change.instant (c : Change) (standard daylight year : Int) : Int :=
  let shift := match c.reference with
    | .utc => 0
    | .standard => standard
    | .daylight => daylight
  c.sunday.day year c.month * 86400 + c.second - shift

def ZoneRule.offsetAt (r : ZoneRule) (second : Int) : Int :=
  match r.daylight with
  | none => r.standard
  | some d =>
    let year := (Date.ofDays (second / 86400)).year
    let start := d.start.instant r.standard d.offset year
    let stop := d.stop.instant r.standard d.offset year
    let inside :=
      if start < stop then start ≤ second && second < stop else start ≤ second || second < stop
    if inside then d.offset else r.standard

def NamedZone.ruleAt (z : NamedZone) (second : Int) : ZoneRule :=
  ((z.former.find? fun r => second < r.1).map (·.2)).getD z.rule

def NamedZone.offsetAt (z : NamedZone) (second : Int) : Int := (z.ruleAt second).offsetAt second

def hours (h : Int) : Int := h * 3600

def minutes (m : Int) : Int := m * 60

def steady (name : String) (offset : Int) (former : List (Int × Int)) : NamedZone where
  name := name
  rule := ⟨offset, none⟩
  former := former.map fun r => (r.1, ⟨r.2, none⟩)

def lagos : NamedZone :=
  steady "Africa/Lagos" (hours 1)
    [(-2035584815, 815), (-1940889600, 0), (-1767226415, 815), (-1588465800, minutes 30)]

def kolkata : NamedZone :=
  let indian := hours 5 + minutes 30
  let war := hours 6 + minutes 30
  steady "Asia/Kolkata" indian
    [(-3645237208, 21208), (-3155694800, 21200), (-2019705670, 19270), (-891581400, indian),
      (-872058600, war), (-862637400, indian), (-764145000, war)]

def tokyo : NamedZone :=
  steady "Asia/Tokyo" (hours 9)
    [(-2587712400, 33539), (-683802000, hours 9), (-672310800, hours 10), (-654771600, hours 9),
      (-640861200, hours 10), (-620298000, hours 9), (-609411600, hours 10),
      (-588848400, hours 9), (-577962000, hours 10)]

def kathmandu : NamedZone :=
  steady "Asia/Kathmandu" (hours 5 + minutes 45)
    [(-1577943676, 20476), (504901800, hours 5 + minutes 30)]

def european (name : String) (standard : Int) : NamedZone where
  name := name
  rule := ⟨standard, some
    ⟨standard + hours 1, ⟨3, .last, hours 1, .utc⟩, ⟨10, .last, hours 1, .utc⟩⟩⟩

def northAmericanRule (standard second : Int) : ZoneRule :=
  ⟨standard, some
    ⟨standard + hours 1, ⟨3, .nth 2, second, .standard⟩, ⟨11, .nth 1, second, .daylight⟩⟩⟩

def northAmerican (name : String) (standard : Int) : NamedZone where
  name := name
  rule := northAmericanRule standard (hours 2)

-- Up to the end of October 2011 the clocks changed a minute after midnight.
def stJohns : NamedZone :=
  let standard := -(hours 3 + minutes 30)
  { northAmerican "America/St_Johns" standard with
    former := [(1320105600, northAmericanRule standard (minutes 1))] }

def sydney : NamedZone where
  name := "Australia/Sydney"
  rule := ⟨hours 10, some
    ⟨hours 11, ⟨10, .nth 1, hours 2, .standard⟩, ⟨4, .nth 1, hours 3, .daylight⟩⟩⟩

def lordHowe : NamedZone where
  name := "Australia/Lord_Howe"
  rule := ⟨hours 10 + minutes 30, some
    ⟨hours 11, ⟨10, .nth 1, hours 2, .standard⟩, ⟨4, .nth 1, hours 2, .daylight⟩⟩⟩

def chatham : NamedZone where
  name := "Pacific/Chatham"
  rule := ⟨hours 12 + minutes 45, some
    ⟨hours 13 + minutes 45, ⟨9, .last, hours 2 + minutes 45, .standard⟩,
      ⟨4, .nth 1, hours 3 + minutes 45, .daylight⟩⟩⟩

def NamedZone.utc : NamedZone := steady "UTC" 0 []

def NamedZone.known : List NamedZone :=
  [utc, steady "GMT" 0 [], lagos, kolkata, tokyo, kathmandu, steady "Etc/GMT+5" (hours (-5)) [],
    steady "Etc/GMT-14" (hours 14) [], european "Europe/London" 0,
    european "Europe/Berlin" (hours 1), northAmerican "America/Los_Angeles" (hours (-8)),
    northAmerican "US/Pacific" (hours (-8)), northAmerican "America/New_York" (hours (-5)),
    stJohns, sydney, lordHowe, chatham]

def NamedZone.find? (zones : List NamedZone) (name : String) : Option NamedZone :=
  zones.find? (·.name == name)

def offsetSign? : List Char → Option (Int × List Char)
  | '+' :: rest => some (1, rest)
  | '-' :: rest => some (-1, rest)
  | '−' :: rest => some (-1, rest)
  | _ => none

def twoDigits? : List Char → Option (Nat × List Char)
  | a :: b :: rest =>
    if a.isDigit && b.isDigit then
      some ((a.toNat - '0'.toNat) * 10 + (b.toNat - '0'.toNat), rest)
    else none
  | _ => none

def isOffsetSeparator (c : Char) : Bool := c == ':' || Text.isBlank c

-- What follows the minutes is not read.
def offset? (cs : List Char) : Option Int := do
  let (sign, cs) ← offsetSign? cs
  let (h, cs) ← twoDigits? cs
  let (m, _) ← twoDigits? (cs.dropWhile isOffsetSeparator)
  if h ≤ 23 ∧ m ≤ 59 then some (sign * (h * 3600 + m * 60)) else none

end Time

inductive Zone where
  | named (zone : Time.NamedZone)
  | fixed (offset : Int)
deriving DecidableEq, Repr

namespace Zone

def utc : Zone := .named .utc

def offsetAt (z : Zone) (t : Timestamp) : Int :=
  match z with
  | .named zone => zone.offsetAt t.seconds
  | .fixed offset => offset

def zoned (z : Zone) (t : Timestamp) : ZonedTime := ⟨t, z.offsetAt t⟩

def parseAmong (zones : List Time.NamedZone) (raw : String) : Except String Zone :=
  let text := Text.trim raw
  if text = "z" ∨ text = "Z" then .ok utc
  else match Time.NamedZone.find? zones text with
    | some zone => .ok (.named zone)
    | none => match Time.offset? text.toList with
      | some offset => .ok (.fixed offset)
      | none => .error text

def parse (raw : String) : Except String Zone := parseAmong Time.NamedZone.known raw

def unknownMessage (text : String) : String :=
  s!"unknown time zone '{text}' (use an IANA name or +HH:MM)"

end Zone

end LockRegistry
