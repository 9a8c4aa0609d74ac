import Converge.Json.Basic
import Converge.Json.Syntax

/-!
# Reading numbers

An integer literal that fits 64 bits, with or without sign, is an integer; every
other literal is a floating-point number. Such a number is made of the leading
digits that fit 64 bits and a decimal exponent, by one multiplication with or
division by a rounded power of ten; this is not always the nearest number, and the
sign of zero is kept.
-/

namespace Converge.Json

/-- Read on after a digit as long as the number fits 64 bits. The rest begins with
the first digit that does not fit, if there is one. -/
def readDigits (limit : Nat) : Nat → List Char → Nat × List Char
  | n, [] => (n, [])
  | n, c :: rest =>
    if c.isDigit && n * 10 + (c.toNat - 48) ≤ limit then
      readDigits limit (n * 10 + (c.toNat - 48)) rest
    else (n, c :: rest)

def startsWithDigit : List Char → Bool
  | c :: _ => c.isDigit
  | [] => false

/-- The number of digits that stand here. -/
def digitCount (cs : List Char) : Nat := (cs.takeWhile Char.isDigit).length

def maxUInt64 : Nat := twoTo 64 - 1

def maxInt32 : Nat := twoTo 31 - 1

/-- The rounded power of ten. -/
def powerOfTen (n : Nat) : Binary64 := Binary64.ofNat (tenTo n)

/-- Multiply a magnitude by a power of ten; nothing if the result is infinite. A
power below the range is divided off in steps, of which `steps` are left; three
take every 64-bit number to zero. -/
def scale : (steps : Nat) → Binary64 → Int → Option Binary64
  | steps, x, e =>
    if e.natAbs ≤ 308 then
      if 0 ≤ e then
        let y := x.mulMagnitude (powerOfTen e.natAbs)
        if y.isInfinite then none else some y
      else some (x.divMagnitude (powerOfTen e.natAbs))
    else if x.isZero then some x
    else if 0 ≤ e then none
    else match steps with
      | 0 => some (Binary64.zero false)
      | steps + 1 => scale steps (x.divMagnitude (powerOfTen 308)) (e + 308)

/-- The floating-point number of a sign, digits and a decimal exponent. -/
def floatOfParts (negative : Bool) (digits : Nat) (exponent : Int) (rest : List Char) :
    Except Fault (Json × List Char) :=
  match scale 4 (Binary64.ofNat digits) exponent with
  | some x => .ok (.float (if negative then x.negate else x), rest)
  | none => .error (.at rest .numberOutOfRange)

/-- Read the exponent that stands behind `e`. -/
def exponentPart (negative : Bool) (digits : Nat) (exponent : Int) (cs : List Char) :
    Except Fault (Json × List Char) :=
  let (negativeExponent, cs) := match cs with
    | '+' :: rest => (false, rest)
    | '-' :: rest => (true, rest)
    | cs => (false, cs)
  match cs with
  | [] => .error (.at [] .unfinishedValue)
  | c :: rest =>
    if c.isDigit then
      let (e, rest) := readDigits maxInt32 (c.toNat - 48) rest
      if startsWithDigit rest then
        if digits ≠ 0 ∧ negativeExponent = false then .error (.past rest .numberOutOfRange)
        else .ok (.float (Binary64.zero negative), rest.dropWhile Char.isDigit)
      else
        let e : Int := if negativeExponent then -e else e
        floatOfParts negative digits (exponent + e) rest
    else .error (.past (c :: rest) .invalidNumber)

/-- Read the digits that stand behind the point. Digits that do not fit are dropped. -/
def decimalPart (negative : Bool) (digits : Nat) (exponent : Int) (cs : List Char) :
    Except Fault (Json × List Char) :=
  let (all, rest) := readDigits maxUInt64 digits cs
  let places := digitCount cs - digitCount rest
  if places = 0 && !startsWithDigit rest then
    match rest with
    | [] => .error (.at [] .unfinishedValue)
    | _ => .error (.past rest .invalidNumber)
  else
    let exponent := exponent - places
    match rest.dropWhile Char.isDigit with
    | 'e' :: rest => exponentPart negative all exponent rest
    | 'E' :: rest => exponentPart negative all exponent rest
    | rest => floatOfParts negative all exponent rest

/-- The number of an integer literal without further parts. -/
def integer (negative : Bool) (digits : Nat) : Json :=
  if negative then
    if digits = 0 ∨ twoTo 63 < digits then .float (Binary64.ofNat digits).negate
    else .int (-digits)
  else .int digits

/-- Read on behind the integer digits. -/
def afterInteger (negative : Bool) (digits : Nat) (cs : List Char) :
    Except Fault (Json × List Char) :=
  if startsWithDigit cs then
    let extra := digitCount cs
    match cs.dropWhile Char.isDigit with
    | '.' :: rest => decimalPart negative digits extra rest
    | 'e' :: rest => exponentPart negative digits extra rest
    | 'E' :: rest => exponentPart negative digits extra rest
    | rest => floatOfParts negative digits extra rest
  else
    match cs with
    | '.' :: rest => decimalPart negative digits 0 rest
    | 'e' :: rest => exponentPart negative digits 0 rest
    | 'E' :: rest => exponentPart negative digits 0 rest
    | rest => .ok (integer negative digits, rest)

/-- Read a number behind its sign. -/
def number (negative : Bool) : List Char → Except Fault (Json × List Char)
  | [] => .error (.at [] .unfinishedValue)
  | c :: rest =>
    if c = '0' then
      if startsWithDigit rest then .error (.past rest .invalidNumber)
      else afterInteger negative 0 rest
    else if c.isDigit then
      let (n, rest) := readDigits maxUInt64 (c.toNat - 48) rest
      afterInteger negative n rest
    else .error (.past (c :: rest) .invalidNumber)

end Converge.Json
