import Converge.Width

/-!
# Binary floating-point numbers of 64 bits

A number is its 64 bits. Finite numbers are decoded to `significand * 2 ^ scale`
with a sign, and a quotient of naturals is rounded to the nearest number, a tie
going to the even significand. All of it is exact arithmetic on naturals and
integers; no operation of the machine's floating-point unit is used.
-/

namespace Converge

/-- A 64-bit binary floating-point number, given by its bits. -/
structure Binary64 where
  bits : UInt64
deriving DecidableEq, Inhabited

namespace Binary64

def negative (x : Binary64) : Bool := twoTo 63 ≤ x.bits.toNat

/-- The eleven exponent bits. -/
def exponentField (x : Binary64) : Nat := x.bits.toNat / twoTo 52 % twoTo 11

/-- The fifty-two fraction bits. -/
def fraction (x : Binary64) : Nat := x.bits.toNat % twoTo 52

def isNaN (x : Binary64) : Bool := x.exponentField = 2047 && x.fraction != 0

def isInfinite (x : Binary64) : Bool := x.exponentField = 2047 && x.fraction = 0

def isFinite (x : Binary64) : Bool := x.exponentField != 2047

def isZero (x : Binary64) : Bool := x.exponentField = 0 && x.fraction = 0

/-- The magnitude of a finite number is `significand * 2 ^ scale`. -/
def significand (x : Binary64) : Nat :=
  if x.exponentField = 0 then x.fraction else twoTo 52 + x.fraction

def scale (x : Binary64) : Int :=
  if x.exponentField = 0 then -1074 else (x.exponentField : Int) - 1075

/-- Put a sign, an exponent field and a fraction together. -/
def ofFields (negative : Bool) (exponent fraction : Nat) : Binary64 :=
  ⟨UInt64.ofNat ((if negative then twoTo 63 else 0) + exponent * twoTo 52 + fraction)⟩

def infinity (negative : Bool) : Binary64 := ofFields negative 2047 0

def nan : Binary64 := ofFields false 2047 (twoTo 51)

def zero (negative : Bool) : Binary64 := ofFields negative 0 0

def negate (x : Binary64) : Binary64 := ⟨x.bits ^^^ 0x8000000000000000⟩

/-- The magnitude of a finite number as a quotient. -/
def ratio (x : Binary64) : Nat × Nat :=
  if x.scale < 0 then (x.significand, twoTo (-x.scale).toNat)
  else (x.significand * twoTo x.scale.toNat, 1)

/-- The nearest natural to `num / den`, a tie going to the even one. -/
def nearest (num den : Nat) : Nat :=
  let q := num / den
  let r := num % den
  if 2 * r < den then q
  else if den < 2 * r then q + 1
  else if q % 2 = 0 then q else q + 1

/-- The number of binary digits. -/
def bitLength (n : Nat) : Nat := if n = 0 then 0 else n.log2 + 1

/-- Round the magnitude `num / den` to the nearest number. The scale is the
least one at which the quotient has at most 53 binary digits; when rounding
carries into a 54th digit, the fields still add up to the right number. -/
def ofRatio (negative : Bool) (num den : Nat) : Binary64 :=
  if num = 0 then zero negative
  else
    let guess : Int := (bitLength num : Int) - (bitLength den : Int) - 53
    let fits (e : Int) : Bool :=
      if e < 0 then num * twoTo (-e).toNat < twoTo 53 * den
      else num < twoTo 53 * den * twoTo e.toNat
    let e : Int := max (if fits guess then guess else guess + 1) (-1074)
    let m := if e < 0 then nearest (num * twoTo (-e).toNat) den else nearest num (den * twoTo e.toNat)
    let field : Nat := (e + 1074).toNat
    let raw := field * twoTo 52 + m
    if 2047 * twoTo 52 ≤ raw then infinity negative
    else ⟨UInt64.ofNat ((if negative then twoTo 63 else 0) + raw)⟩

/-- Round `digits * 10 ^ exponent` to the nearest number. Exponents so far out
that the result is certain are not expanded. -/
def ofDecimal (negative : Bool) (digits : Nat) (exponent : Int) : Binary64 :=
  if digits = 0 then zero negative
  else
    let top : Int := (digits.log2 : Int) / 3 + 1 + exponent
    if 400 < exponent then infinity negative
    else if top < -400 then zero negative
    else if exponent < 0 then ofRatio negative digits (tenTo (-exponent).toNat)
    else ofRatio negative (digits * tenTo exponent.toNat) 1

/-- The nearest number to a natural. -/
def ofNat (n : Nat) : Binary64 := ofRatio false n 1

/-- The rounded product of two finite magnitudes. -/
def mulMagnitude (x y : Binary64) : Binary64 :=
  let (a, b) := x.ratio
  let (c, d) := y.ratio
  ofRatio false (a * c) (b * d)

/-- The rounded quotient of two finite magnitudes, the second not zero. -/
def divMagnitude (x y : Binary64) : Binary64 :=
  let (a, b) := x.ratio
  let (c, d) := y.ratio
  ofRatio false (a * d) (b * c)

end Binary64

end Converge
