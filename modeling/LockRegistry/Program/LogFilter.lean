import LockRegistry.Log
import LockRegistry.Text.Alphanumeric
import LockRegistry.Text.Blank
import LockRegistry.Text.Numeral
import LockRegistry.Text.Parts
import LockRegistry.Text.Pattern

/-! Which log events are written: the most specific directive about an event decides. -/

namespace LockRegistry

structure FieldTest where
  name : String
  valued : Bool := false
deriving DecidableEq, Repr

structure LogDirective where
  target : String := ""
  span : Option String := none
  field : Option FieldTest := none
  verbosity : Nat := LogLevel.trace.verbosity
deriving DecidableEq, Repr

namespace LogDirective

-- What is said about spans or values lets no event through by itself, as events are in no span.
def isStatic (d : LogDirective) : Bool := d.span.isNone && d.field.all (!·.valued)

def concerns (d : LogDirective) (e : LogEvent) : Bool :=
  d.isStatic && d.target.toList.isPrefixOf e.source.target.toList &&
    d.field.all fun f => e.fieldNames.contains f.name

def isAsSpecificAs (d b : LogDirective) : Bool :=
  if d.target.utf8ByteSize = b.target.utf8ByteSize then
    match d.field, b.field with
    | _, none => true
    | none, some _ => false
    | some f, some g => g.name ≤ f.name
  else b.target.utf8ByteSize < d.target.utf8ByteSize

def levels : List (String × Nat) :=
  [("off", 0), ("error", LogLevel.error.verbosity), ("warn", LogLevel.warn.verbosity),
    ("info", LogLevel.info.verbosity), ("debug", LogLevel.debug.verbosity),
    ("trace", LogLevel.trace.verbosity)]

def verbosity? (text : List Char) : Option Nat :=
  match Text.integer? .unsigned64 (String.ofList text) with
  | some n => if n ≤ LogLevel.trace.verbosity then some n.toNat else none
  | none => (levels.find? fun l => l.1.toList == text.map Char.toLower).map (·.2)

inductive Part where
  | start
  | head (first : Nat)
  | span (first : Nat)
  | field (first : Nat)
  | afterField
  | afterSpan
  | level (first : Nat)
deriving DecidableEq, Repr

def places (first : Nat) : List Char → List (Nat × Char)
  | [] => []
  | c :: rest => (first, c) :: places (first + c.utf8Size) rest

def cut (text : List Char) (first : Nat) (last : Option Nat) : List Char :=
  ((places 0 text).filter fun p => first ≤ p.1 && last.all (p.1 < ·)).map (·.2)

def cutText (text : List Char) (first last : Nat) : String :=
  String.ofList (cut text first (some last))

def isFirst (c : Char) : Bool := Text.isAlphanumeric c || c ∈ ['_', ':', '-']

def isNumber (cs : List Char) : Bool :=
  let (mantissa, exponent) := cs.span fun c => c.toLower ≠ 'e'
  let (whole, fraction) := Text.divide '.' mantissa
  let isMantissa := (whole ++ fraction).all Char.isDigit && !(whole ++ fraction).isEmpty
  let unsigned := match exponent.drop 1 with
    | '+' :: digits => digits
    | '-' :: digits => digits
    | digits => digits
  [['i', 'n', 'f'], "infinity".toList, ['n', 'a', 'n']].contains (cs.map Char.toLower) ||
    (isMantissa && (exponent.isEmpty || (!unsigned.isEmpty && unsigned.all Char.isDigit)))

def isValue (cs : List Char) : Bool :=
  Pattern.isPattern cs || (cs.head? == some '+' && isNumber (cs.drop 1))

def fieldTest? (text : List Char) : Option FieldTest :=
  match Text.parts '=' text with
  | name :: value :: _ => if isValue value then some ⟨String.ofList name, true⟩ else none
  | _ => some ⟨String.ofList text, false⟩

def step (text : List Char) (r : Part × LogDirective) (p : Nat × Char) :
    Option (Part × LogDirective) :=
  let (place, c) := p
  let (part, d) := r
  match part, c with
  | .start, '[' => some (.span (place + 1), d)
  | .start, c => if isFirst c then some (.head place, d) else none
  | .head first, '=' => some (.level (place + 1), { d with target := cutText text first place })
  | .head first, '[' => some (.span (place + 1), { d with target := cutText text first place })
  | .span first, ']' => some (.afterSpan, { d with span := some (cutText text first place) })
  | .span first, '\x7b' =>
    let name := cutText text first place
    some (.field (place + 1), { d with span := if name.isEmpty then none else some name })
  | .field first, '\x7d' =>
    let found := cut text first (some place)
    if found.isEmpty then none
    else (fieldTest? found).map fun test => (.afterField, { d with field := some test })
  | .afterField, ']' => some (.afterSpan, d)
  | .afterSpan, '=' => some (.level (place + 1), d)
  | .afterField, _ => none
  | .afterSpan, _ => none
  | part, _ => some (part, d)

def finish? (text : List Char) : Part × LogDirective → Option LogDirective
  | (.head first, d) =>
    let found := cut text first none
    match verbosity? found with
    | some v => some { d with verbosity := v }
    | none => some { d with target := String.ofList found }
  | (.level first, d) =>
    let found := cut text first none
    if found.isEmpty then some d else (verbosity? found).map ({ d with verbosity := · })
  | (.afterSpan, d) => some d
  | _ => none

def ofText? (text : List Char) : Option LogDirective :=
  ((places 0 (Text.trimList text)).foldlM (step text) (.start, {})) >>= finish? text

end LogDirective

abbrev LogFilter := List LogDirective

namespace LogFilter

def standard : LogFilter :=
  [{ target := "lockkeeper", verbosity := LogLevel.info.verbosity },
    { target := "lockkeeper_service", verbosity := LogLevel.info.verbosity }]

def parse? (text : String) : Option LogFilter :=
  ((Text.parts ',' text.toList).filter (!·.isEmpty)).mapM LogDirective.ofText?

def ofSetting (setting : Option String) : LogFilter := (setting.bind parse?).getD standard

-- The most specific directive about an event, and of equal ones the last.
def deciding? (f : LogFilter) (e : LogEvent) : Option LogDirective :=
  (f.filter (·.concerns e)).foldl
    (fun best d => if best.all (d.isAsSpecificAs ·) then some d else best) none

def allows (f : LogFilter) (e : LogEvent) : Bool :=
  (f.deciding? e).any fun d => e.level.verbosity ≤ d.verbosity

end LogFilter

end LockRegistry
