import Converge.Binary64

/-!
# The shortest decimal that reads back

Every decimal strictly inside the gap around a finite number reads back as that
number; the ends of the gap do so exactly when the significand is even. Among
those decimals the one with the fewest digits is taken, among equally short ones
the nearest, and of two equally near ones the even one.

The search goes through the grids of 1, 2, … 17 digits. On each grid only the two
neighbours of the number can be nearest, and a grid with a point in the gap has
one of them in it, so testing these two is enough.
-/

namespace Converge.Decimal

/-- A positive decimal `digits * 10 ^ exponent` without trailing zeros. -/
structure Digits where
  digits : Nat
  exponent : Int
deriving DecidableEq, Repr

/-- The gap around a number, in quarters of its unit: the number is
`4 * significand` quarters, and both ends are included or neither. -/
structure Gap where
  low : Nat
  value : Nat
  high : Nat
  closed : Bool
  /-- A quarter is `2 ^ unit`. -/
  unit : Int

/-- Below a power of two the numbers lie twice as dense, so the gap is shorter
on that side. -/
def gapOf (x : Binary64) : Gap :=
  let m := x.significand
  let narrow := x.fraction = 0 && 1 < x.exponentField
  { low := if narrow then 4 * m - 1 else 4 * m - 2
    value := 4 * m
    high := 4 * m + 2
    closed := m % 2 = 0
    unit := x.scale - 2 }

/-- `a * 2 ^ unit < d * 10 ^ exponent`, decided on naturals. -/
def belowDecimal (a : Nat) (unit : Int) (d : Nat) (exponent : Int) : Bool :=
  a * twoTo unit.toNat * tenTo (-exponent).toNat < d * twoTo (-unit).toNat * tenTo exponent.toNat

/-- `a * 2 ^ unit = d * 10 ^ exponent`, decided on naturals. -/
def equalsDecimal (a : Nat) (unit : Int) (d : Nat) (exponent : Int) : Bool :=
  a * twoTo unit.toNat * tenTo (-exponent).toNat = d * twoTo (-unit).toNat * tenTo exponent.toNat

/-- Does the decimal lie in the gap? -/
def Gap.holds (g : Gap) (d : Nat) (exponent : Int) : Bool :=
  let above := belowDecimal g.low g.unit d exponent ||
    (g.closed && equalsDecimal g.low g.unit d exponent)
  let notAbove := !(belowDecimal g.high g.unit d exponent) &&
    (g.closed || !(equalsDecimal g.high g.unit d exponent))
  above && notAbove

/-- The grid point at or below the number. -/
def Gap.floorOn (g : Gap) (exponent : Int) : Nat :=
  (g.value * twoTo g.unit.toNat * tenTo (-exponent).toNat) /
    (twoTo (-g.unit).toNat * tenTo exponent.toNat)

/-- Is the point `d` nearer to the number than `d + 1`, or equally near and even? -/
def Gap.prefersLower (g : Gap) (d : Nat) (exponent : Int) : Bool :=
  let twice := 2 * g.value
  let middle := 2 * d + 1
  if equalsDecimal twice g.unit middle exponent then d % 2 = 0
  else belowDecimal twice g.unit middle exponent

/-- The choice on one grid, if the grid has a point in the gap. -/
def Gap.chooseOn (g : Gap) (exponent : Int) : Option Nat :=
  let d := g.floorOn exponent
  match g.holds d exponent && 0 < d, g.holds (d + 1) exponent with
  | true, true => some (if g.prefersLower d exponent then d else d + 1)
  | true, false => some d
  | false, true => some (d + 1)
  | false, false => none

/-- Remove trailing zeros, at most `fuel` of them. -/
def stripZeros : Nat → Nat → Int → Digits
  | 0, d, e => ⟨d, e⟩
  | fuel + 1, d, e => if d % 10 = 0 && d != 0 then stripZeros fuel (d / 10) (e + 1) else ⟨d, e⟩

/-- Go through the grids with `18 - fuel`, … digits; `top` is the decimal
exponent just above the number. -/
def search (g : Gap) (top : Int) : Nat → Digits
  | 0 => stripZeros 20 (g.floorOn (top - 17)) (top - 17)
  | fuel + 1 =>
    let exponent := top - (17 - fuel : Nat)
    match g.chooseOn exponent with
    | some d => stripZeros 20 d exponent
    | none => search g top fuel

/-- A decimal exponent with `10 ^ (top - 1) ≤ number < 10 ^ top`, found from the
binary magnitude and corrected by at most one step. -/
def topExponent (x : Binary64) : Int :=
  let magnitude : Int := (x.significand.log2 : Int) + x.scale
  let guess := magnitude * 30103 / 100000
  let reached (e : Int) : Bool := !(belowDecimal (4 * x.significand) (x.scale - 2) 1 e)
  if reached (guess + 1) then guess + 2 else if reached guess then guess + 1 else guess

/-- The shortest decimal of a finite number other than zero. -/
def shortest (x : Binary64) : Digits := search (gapOf x) (topExponent x) 17

end Converge.Decimal
