import LockRegistry.Number.Binary64

/-! The shortest decimal that is rounded to a floating-point number, and of these the nearest to it.
-/

namespace LockRegistry

structure Decimal where
  digits : Nat
  exponent : Int
deriving DecidableEq, Repr, Inhabited

namespace Binary64

-- The number below has the next smaller exponent, so that it is half as far away as the one above.
def isNarrowBelow (x : Binary64) : Bool :=
  x.mantissa == mantissaLeast && leastExponent < x.exponent

def measures (x : Binary64) (k : Int) : Nat × Nat :=
  let e := x.exponent - 2
  (Nat.pow 10 k.toNat <<< (-e).toNat, Nat.pow 10 (-k).toNat <<< e.toNat)

-- The decimal is not beyond the middle to the numbers on either side, and in the middle only if the
-- mantissa is even.
def readsBack (x : Binary64) (k : Int) (digits : Nat) : Bool :=
  let (ten, quarter) := x.measures k
  let low := (4 * x.mantissa - if x.isNarrowBelow then 1 else 2) * quarter
  let high := (4 * x.mantissa + 2) * quarter
  let value := digits * ten
  if x.mantissa % 2 = 0 then low ≤ value && value ≤ high else low < value && value < high

def nearerOf (x : Binary64) (k : Int) (below : Nat) : Nat :=
  let (ten, quarter) := x.measures k
  match compare (8 * x.mantissa * quarter) ((2 * below + 1) * ten) with
  | .lt => below
  | .gt => below + 1
  | .eq => if below % 2 = 0 then below else below + 1

def multiple? (x : Binary64) (k : Int) : Option Decimal :=
  let (ten, quarter) := x.measures k
  let below := 4 * x.mantissa * quarter / ten
  match x.readsBack k below, x.readsBack k (below + 1) with
  | true, true => some ⟨x.nearerOf k below, k⟩
  | true, false => some ⟨below, k⟩
  | false, true => some ⟨below + 1, k⟩
  | false, false => none

def exact (x : Binary64) : Decimal :=
  if x.exponent < 0 then ⟨x.mantissa * Nat.pow 5 (-x.exponent).toNat, x.exponent⟩
  else ⟨x.mantissa <<< x.exponent.toNat, 0⟩

def powers : List Int := (List.range 633).map fun (i : Nat) => 308 - (i : Int)

def shortest (x : Binary64) : Decimal := (powers.findSome? x.multiple?).getD x.exact

end Binary64

end LockRegistry
