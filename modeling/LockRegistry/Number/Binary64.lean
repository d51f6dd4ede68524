
namespace LockRegistry

structure Binary64 where
  mantissa : Nat
  exponent : Int
deriving DecidableEq, Repr, Inhabited

namespace Binary64

def mantissaLimit : Nat := 0x20000000000000

def mantissaLeast : Nat := 0x10000000000000

def leastExponent : Int := -1074

def greatestExponent : Int := 971

def zero : Binary64 := ⟨0, leastExponent⟩

def isZero (x : Binary64) : Bool := x.mantissa == 0

def isFinite (x : Binary64) : Bool := x.exponent ≤ greatestExponent

def scaled (n d : Nat) (exponent : Int) : Nat × Nat :=
  (n <<< (-exponent).toNat, d <<< exponent.toNat)

-- The whole number nearest to a fraction, or the even one of two.
def nearest (n d : Nat) : Nat :=
  let (q, r) := (n / d, n % d)
  if 2 * r < d ∨ (2 * r = d ∧ q % 2 = 0) then q else q + 1

def exponentOf (n d : Nat) : Int :=
  let e := max ((n.log2 : Int) - d.log2 - 53) leastExponent
  let (a, b) := scaled n d e
  if a / b < mantissaLimit then e else e + 1

def round (n d : Nat) : Binary64 :=
  let e := exponentOf n d
  let (a, b) := scaled n d e
  let m := nearest a b
  if m < mantissaLimit then ⟨m, e⟩ else ⟨mantissaLeast, e + 1⟩

def ofNat (n : Nat) : Binary64 := round n 1

def times (x y : Binary64) : Binary64 :=
  let e := x.exponent + y.exponent
  round ((x.mantissa * y.mantissa) <<< e.toNat) (1 <<< (-e).toNat)

def dividedBy (x y : Binary64) : Binary64 :=
  let e := x.exponent - y.exponent
  round (x.mantissa <<< e.toNat) (y.mantissa <<< (-e).toNat)

def powerOfTen (k : Nat) : Binary64 := ofNat (Nat.pow 10 k)

def greatestPower : Nat := 308

-- Up to twenty digits times a power of ten, if that is finite. The digits are rounded first, and
-- then multiplied or divided by a rounded power of ten, which rounds again.
def ofDecimal? (digits : Nat) (exponent : Int) : Option Binary64 :=
  let x := ofNat digits
  let power := exponent.natAbs
  if x.isZero then some zero
  else if 0 ≤ exponent then
    let y := x.times (powerOfTen power)
    if power ≤ greatestPower ∧ y.isFinite then some y else none
  else if power ≤ greatestPower then some (x.dividedBy (powerOfTen power))
  else if power ≤ 2 * greatestPower then
    some ((x.dividedBy (powerOfTen greatestPower)).dividedBy (powerOfTen (power - greatestPower)))
  else some zero

end Binary64

end LockRegistry
