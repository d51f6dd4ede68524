
namespace LockRegistry.Text

def hexDigits (n : Nat) : List Char := Nat.toDigits 16 n

def hexValue? (c : Char) : Option Nat :=
  if c.isDigit then some (c.toNat - '0'.toNat)
  else if 'a' ≤ c.toLower ∧ c.toLower ≤ 'f' then some (c.toLower.toNat - 'a'.toNat + 10)
  else none

def padded (width n : Nat) : String :=
  let digits := Nat.toDigits 10 n
  String.ofList (List.replicate (width - digits.length) '0' ++ digits)

def digitsValue (cs : List Char) : Nat := cs.foldl (fun n c => 10 * n + (c.toNat - '0'.toNat)) 0

def natural? (cs : List Char) : Option Nat :=
  if !cs.isEmpty && cs.all Char.isDigit then some (digitsValue cs) else none

structure IntRange where
  least : Int
  greatest : Int
deriving DecidableEq, Repr

namespace IntRange

def unsigned32 : IntRange := ⟨0, 0xFFFFFFFF⟩

def unsigned64 : IntRange := ⟨0, 0xFFFFFFFFFFFFFFFF⟩

def signed64 : IntRange := ⟨-0x8000000000000000, 0x7FFFFFFFFFFFFFFF⟩

end IntRange

def signed? (negative : Bool) : List Char → Option Int
  | '+' :: rest => (natural? rest).map Int.ofNat
  | '-' :: rest => if negative then (natural? rest).map (-Int.ofNat ·) else none
  | cs => (natural? cs).map Int.ofNat

def integer? (range : IntRange) (s : String) : Option Int := do
  let n ← signed? (range.least < 0) s.toList
  if range.least ≤ n ∧ n ≤ range.greatest then some n else none

inductive NumeralError where
  | empty
  | invalidDigit
  | tooLarge
deriving DecidableEq, Repr

def NumeralError.message : NumeralError → String
  | .empty => "cannot parse integer from empty string"
  | .invalidDigit => "invalid digit found in string"
  | .tooLarge => "number too large to fit in target type"

def addDigit (greatest value : Nat) (c : Char) : Except NumeralError Nat :=
  let next := 10 * value + (c.toNat - '0'.toNat)
  if !c.isDigit then .error .invalidDigit
  else if greatest < next then .error .tooLarge
  else .ok next

def naturalUpTo (greatest : Nat) : List Char → Except NumeralError Nat
  | [] => .error .empty
  | ['+'] => .error .invalidDigit
  | '+' :: cs => cs.foldlM (addDigit greatest) 0
  | cs => cs.foldlM (addDigit greatest) 0

end LockRegistry.Text
