/-!
# The shortest decimal of a floating-point number

A 64-bit float stands for an interval of real numbers, those that are rounded to it.  Of the
decimals in that interval the one to write is the one with the fewest digits, and among those the
one closest to the float.

The search is that sentence turned into a loop.  A decimal with few digits lies on a coarse grid
of multiples of a power of ten, so the grids are tried from coarse to fine.  If any point of a grid
lies in the interval, so does one of the two points next to the float itself, and only those two
are tested.  Everything is compared by multiplying out, in natural numbers.
-/

set_option autoImplicit false

namespace Backtrack

/-- The decimal number `digits * 10 ^ exponent`. -/
structure Decimal where
  digits : Nat
  exponent : Int
deriving DecidableEq, Repr

/-- The finite positive float `mantissa * 2 ^ exponent`. -/
structure Dyadic where
  mantissa : Nat
  exponent : Int
  /-- Whether the float below is only half as far away as the float above, as it is for most powers
  of two. -/
  narrowBelow : Bool
deriving DecidableEq, Repr

namespace Dyadic

/-- Take apart the bits of a finite float, leaving out its sign. -/
def ofBits (bits : UInt64) : Dyadic :=
  let e := ((bits >>> 52) &&& 0x7FF).toNat
  let f := (bits &&& 0xFFFFFFFFFFFFF).toNat
  if e == 0 then ⟨f, -1074, false⟩ else ⟨0x10000000000000 + f, (e : Int) - 1075, f == 0 && e > 1⟩

/-- Compare `a * 10 ^ i` with `b * 2 ^ j`. -/
def compareScaled (a : Nat) (i : Int) (b : Nat) (j : Int) : Ordering :=
  compare (a * Nat.pow 10 i.toNat * Nat.pow 2 (-j).toNat)
    (b * Nat.pow 2 j.toNat * Nat.pow 10 (-i).toNat)

/-- Whether a decimal lies in the interval that a float stands for.  It reaches halfway to the
floats on either side, and an end belongs to it if the mantissa is even. -/
def covers (x : Dyadic) (d : Decimal) : Bool :=
  let low := if x.narrowBelow then 4 * x.mantissa - 1 else 4 * x.mantissa - 2
  let high := 4 * x.mantissa + 2
  let even := x.mantissa % 2 == 0
  let fromLow := compareScaled d.digits d.exponent low (x.exponent - 2)
  let fromHigh := compareScaled d.digits d.exponent high (x.exponent - 2)
  (fromLow == .gt || (even && fromLow == .eq)) && (fromHigh == .lt || (even && fromHigh == .eq))

/-- The last multiple of `10 ^ i` that is not above the float, as a factor of `10 ^ i`. -/
def floorAt (x : Dyadic) (i : Int) : Nat :=
  x.mantissa * Nat.pow 2 x.exponent.toNat * Nat.pow 10 (-i).toNat /
    (Nat.pow 10 i.toNat * Nat.pow 2 (-x.exponent).toNat)

/-- The point of the grid `10 ^ i` to write for a float, if one of the two points next to it lies in
its interval.  If both do, the closer one is taken, and of two that are equally close the upper
one. -/
def pick? (x : Dyadic) (i : Int) : Option Decimal :=
  let below := x.floorAt i
  let low : Decimal := ⟨below, i⟩
  let high : Decimal := ⟨below + 1, i⟩
  match x.covers low, x.covers high with
  | true, true =>
    if compareScaled (2 * below + 1) i (2 * x.mantissa) x.exponent == .gt then some low
    else some high
  | true, false => some low
  | false, true => some high
  | false, false => none

/-- An exponent `i` such that the float lies below `10 ^ i`. -/
def scale (x : Dyadic) : Int :=
  let bits : Int := x.mantissa.log2 + 1 + x.exponent
  if 0 ≤ bits then bits / 3 + 1 else -(3 * (-bits / 10))

/-- The float itself, with all its digits. -/
def exact (x : Dyadic) : Decimal :=
  if 0 ≤ x.exponent then ⟨x.mantissa * Nat.pow 2 x.exponent.toNat, 0⟩
  else ⟨x.mantissa * Nat.pow 5 (-x.exponent).toNat, x.exponent⟩

/-- The decimal to write for a float: a point of the coarsest grid that has one in its interval.
The first grids tried are above the leading digit and have none. -/
def shortest (x : Dyadic) : Decimal :=
  ((List.range 64).findSome? fun (n : Nat) => x.pick? (x.scale - n)).getD x.exact

end Dyadic

end Backtrack
