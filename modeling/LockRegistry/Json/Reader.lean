import LockRegistry.Json
import LockRegistry.Text.Numeral

namespace LockRegistry.Json

def isSpace (c : Char) : Bool := c = ' ' || c = '\t' || c = '\n' || c = '\r'

def skip (cs : List Char) : List Char := cs.dropWhile isSpace

def takeDigits (value : Nat) : List Char → Nat × Nat
  | [] => (value, 0)
  | c :: rest =>
    let next := 10 * value + Text.digitsValue [c]
    if next ≤ 0xFFFFFFFFFFFFFFFF then
      let (value, count) := takeDigits next rest
      (value, count + 1)
    else (value, 0)

structure Numeral where
  negative : Bool
  whole : List Char
  fraction : Option (List Char)
  exponent : Option Int
deriving DecidableEq, Repr

namespace Numeral

-- A whole number that fits in 64 bits is an integer, but for a negative zero. Digits that do not
-- fit leave their places and nothing else.
def value? (n : Numeral) : Option Json :=
  let (value, taken) := takeDigits 0 n.whole
  let left := n.whole.length - taken
  let isInteger := n.fraction.isNone && n.exponent.isNone && left == 0 &&
    (!n.negative || (0 < value && value ≤ 0x8000000000000000))
  if isInteger then some (.int (if n.negative then -value else value))
  else
    let (value, places) := takeDigits value (n.fraction.getD [])
    let exponent := n.exponent.getD 0 + left - places
    (Binary64.ofDecimal? value exponent).map (.float n.negative)

end Numeral

def digits (cs : List Char) : Option (List Char × List Char) :=
  let (found, rest) := cs.span Char.isDigit
  if found.isEmpty then none else some (found, rest)

def sign : List Char → Bool × List Char
  | '-' :: rest => (true, rest)
  | '+' :: rest => (false, rest)
  | cs => (false, cs)

def fractionPart : List Char → Option (Option (List Char) × List Char)
  | '.' :: rest => do
    let (found, rest) ← digits rest
    return (some found, rest)
  | cs => some (none, cs)

def exponentPart : List Char → Option (Option Int × List Char)
  | c :: rest =>
    if c = 'e' ∨ c = 'E' then do
      let (negative, rest) := sign rest
      let (found, rest) ← digits rest
      let n := Text.digitsValue found
      return (some (if negative then -n else n), rest)
    else some (none, c :: rest)
  | [] => some (none, [])

def wholePart (cs : List Char) : Option (List Char × List Char) := do
  let (found, rest) ← digits cs
  if found.head? = some '0' ∧ 1 < found.length then none else some (found, rest)

def number (cs : List Char) : Option (Json × List Char) := do
  let negative := cs.head? == some '-'
  let (whole, cs) ← wholePart (if negative then cs.drop 1 else cs)
  let (fraction, cs) ← fractionPart cs
  let (exponent, cs) ← exponentPart cs
  return (← Numeral.value? ⟨negative, whole, fraction, exponent⟩, cs)

def unit? (a b c d : Char) : Option Nat := do
  return 0x1000 * (← Text.hexValue? a) + 0x100 * (← Text.hexValue? b) +
    0x10 * (← Text.hexValue? c) + (← Text.hexValue? d)

def isHigh (n : Nat) : Bool := 0xD800 ≤ n && n < 0xDC00

def isLow (n : Nat) : Bool := 0xDC00 ≤ n && n < 0xE000

def paired (high low : Nat) : Char :=
  Char.ofNat (0x10000 + (high - 0xD800) * 0x400 + (low - 0xDC00))

def escaped? : Char → Option Char
  | '"' => some '"'
  | '\\' => some '\\'
  | '/' => some '/'
  | 'b' => some '\x08'
  | 'f' => some '\x0c'
  | 'n' => some '\n'
  | 'r' => some '\r'
  | 't' => some '\t'
  | _ => none

def text (found : List Char) : List Char → Option (String × List Char)
  | [] => none
  | '"' :: rest => some (String.ofList found.reverse, rest)
  | '\\' :: 'u' :: a :: b :: c :: d :: rest =>
    match unit? a b c d with
    | none => none
    | some n =>
      if isLow n then none
      else if isHigh n then
        match rest with
        | '\\' :: 'u' :: e :: f :: g :: h :: rest =>
          match unit? e f g h with
          | some low => if isLow low then text (paired n low :: found) rest else none
          | none => none
        | _ => none
      else text (Char.ofNat n :: found) rest
  | '\\' :: c :: rest =>
    match escaped? c with
    | some c => text (c :: found) rest
    | none => none
  | c :: rest => if c.toNat < 0x20 then none else text (c :: found) rest

def setField (fields : List (String × Json)) (name : String) (j : Json) : List (String × Json) :=
  fields.filter (·.1 != name) ++ [(name, j)]

def depthLimit : Nat := 127

mutual

-- The fuel bounds the parts that are still read, and the depth those that may still be entered.
def valueWithin (depth : Nat) : Nat → List Char → Option (Json × List Char)
  | 0, _ => none
  | fuel + 1, cs =>
    match skip cs with
    | '"' :: rest => (text [] rest).map fun r => (.str r.1, r.2)
    | '[' :: rest =>
      if depth = 0 then none
      else match skip rest with
        | ']' :: rest => some (.arr [], rest)
        | rest => itemsWithin (depth - 1) fuel [] rest
    | '\x7b' :: rest =>
      if depth = 0 then none
      else match skip rest with
        | '\x7d' :: rest => some (.obj [], rest)
        | rest => fieldsWithin (depth - 1) fuel [] rest
    | 'n' :: 'u' :: 'l' :: 'l' :: rest => some (.null, rest)
    | 't' :: 'r' :: 'u' :: 'e' :: rest => some (.bool true, rest)
    | 'f' :: 'a' :: 'l' :: 's' :: 'e' :: rest => some (.bool false, rest)
    | rest => number rest

def itemsWithin (depth : Nat) : Nat → List Json → List Char → Option (Json × List Char)
  | 0, _, _ => none
  | fuel + 1, found, cs =>
    match valueWithin depth fuel cs with
    | none => none
    | some (j, rest) =>
      match skip rest with
      | ',' :: rest => itemsWithin depth fuel (j :: found) rest
      | ']' :: rest => some (.arr (j :: found).reverse, rest)
      | _ => none

def fieldsWithin (depth : Nat) :
    Nat → List (String × Json) → List Char → Option (Json × List Char)
  | 0, _, _ => none
  | fuel + 1, found, cs =>
    match skip cs with
    | '"' :: rest =>
      match text [] rest with
      | none => none
      | some (name, rest) =>
        match skip rest with
        | ':' :: rest =>
          match valueWithin depth fuel rest with
          | none => none
          | some (j, rest) =>
            let found := setField found name j
            match skip rest with
            | ',' :: rest => fieldsWithin depth fuel found rest
            | '\x7d' :: rest => some (.obj found, rest)
            | _ => none
        | _ => none
    | _ => none

end

def parse? (s : String) : Option Json := do
  let cs := s.toList
  let (j, rest) ← valueWithin depthLimit (cs.length + 1) cs
  if (skip rest).isEmpty then some j else none

end LockRegistry.Json
