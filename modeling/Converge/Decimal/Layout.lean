import Converge.Decimal.Shortest

/-!
# Writing floating-point numbers

The digits of a number are always the shortest ones; a layout says where
positional notation ends, how an exponent is written, and whether a number without
fraction keeps `.0`, so that it never reads as an integer.
-/

namespace Converge.Decimal

/-- How a finite number is laid out. `leading` is the decimal exponent of its
first digit. -/
structure Layout where
  /-- Is a number with this exponent of its first digit written positionally? -/
  positional : (leading : Int) → Bool
  /-- Is a plus sign written before a positive exponent? -/
  plus : Bool
  /-- What stands behind a number without fraction. -/
  whole : String

/-- Positional from `1e-5` to just below `1e16`, the exponent signed. -/
def Layout.document : Layout := ⟨fun e => -5 ≤ e && e < 16, true, ".0"⟩

/-- Positional throughout. -/
def Layout.positionalOnly : Layout := ⟨fun _ => true, false, ".0"⟩

/-- Positional throughout, and an integer is written like one. -/
def Layout.bare : Layout := ⟨fun _ => true, false, ""⟩

def zeros (n : Nat) : String := String.ofList (List.replicate n '0')

/-- A positive decimal written without exponent. -/
def writePositional (whole digits : String) (exponent : Int) : String :=
  let n := digits.length
  if 0 ≤ exponent then digits ++ zeros exponent.toNat ++ whole
  else
    let places := (-exponent).toNat
    if places < n then
      String.ofList (digits.toList.take (n - places)) ++ "." ++
        String.ofList (digits.toList.drop (n - places))
    else "0." ++ zeros (places - n) ++ digits

/-- A positive decimal written with an exponent. -/
def writeScientific (plus : Bool) (digits : String) (leading : Int) : String :=
  let mantissa := match digits.toList with
    | [] => ""
    | [c] => String.ofList [c]
    | c :: rest => String.ofList (c :: '.' :: rest)
  let sign := if leading < 0 then "-" else if plus then "+" else ""
  mantissa ++ "e" ++ sign ++ toString leading.natAbs

/-- The text of a finite number. -/
def Layout.write (layout : Layout) (x : Binary64) : String :=
  let sign := if x.negative then "-" else ""
  if x.isZero then sign ++ "0" ++ layout.whole
  else
    let d := shortest x
    let digits := toString d.digits
    let leading := d.exponent + digits.length - 1
    sign ++ if layout.positional leading then writePositional layout.whole digits d.exponent
      else writeScientific layout.plus digits leading

end Converge.Decimal
