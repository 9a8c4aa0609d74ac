import Converge.Binary64

/-!
# What plain scalars stand for

A plain scalar is a null, a truth value, an integer, a floating-point number, or else
its text. Integers may have a sign and be binary, octal, decimal or hexadecimal; digits
behind a leading zero are text. A floating-point number is rounded to the nearest.
-/

namespace Converge.Yaml

def isNullText (s : String) : Bool := ["null", "Null", "NULL", "~"].contains s

def boolOf? (s : String) : Option Bool :=
  if ["true", "True", "TRUE"].contains s then some true
  else if ["false", "False", "FALSE"].contains s then some false
  else none

/-- The value of a digit in any base up to sixteen. -/
def digitValue? (c : Char) : Option Nat :=
  if c.isDigit then some (c.toNat - 48)
  else if 'a' ≤ c ∧ c ≤ 'f' then some (c.toNat - 87)
  else if 'A' ≤ c ∧ c ≤ 'F' then some (c.toNat - 55)
  else none

/-- The number of one or more digits of a base. -/
def naturalOf? (base : Nat) (digits : List Char) : Option Nat :=
  if digits.isEmpty then none
  else digits.foldlM (fun n c => do
    let d ← digitValue? c
    if d < base then some (n * base + d) else none) 0

/-- The base and the digits of a number without sign that names its base. -/
def based? : List Char → Option (Nat × List Char)
  | '0' :: 'x' :: digits => some (16, digits)
  | '0' :: 'o' :: digits => some (8, digits)
  | '0' :: 'b' :: digits => some (2, digits)
  | _ => none

/-- The sign that a text begins with. -/
def splitSign : List Char → Option Char × List Char
  | '+' :: rest => (some '+', rest)
  | '-' :: rest => (some '-', rest)
  | rest => (none, rest)

/-- Is the text, behind a sign, a zero and at least one more digit? -/
def isZeroLed (cs : List Char) : Bool :=
  match (splitSign cs).2 with
  | '0' :: c :: rest => (c :: rest).all Char.isDigit
  | _ => false

/-- The integer that a text stands for, whatever its size. -/
def integerOf? (s : String) : Option Int :=
  let (sign, body) := splitSign s.toList
  let magnitude :=
    match (based? body).bind fun (base, digits) => naturalOf? base digits with
    | some n => some n
    | none => if isZeroLed body then none else naturalOf? 10 body
  magnitude.map fun n => if sign = some '-' then -(n : Int) else n

/-- How an integer can be given on, by its size. -/
inductive Width where
  /-- It fits 64 bits, with or without sign. -/
  | word
  /-- It fits 128 bits, with or without sign. -/
  | double
  | beyond
deriving DecidableEq

def widthOf (n : Int) : Width :=
  if fits 64 n then .word
  else if fits 128 n then .double
  else .beyond

/-- The digits of a decimal number without sign: before and behind the point, and the
exponent. There is at least one digit before the exponent. -/
def decimalParts? (cs : List Char) : Option (List Char × List Char × Int) := do
  let whole := cs.takeWhile Char.isDigit
  let rest := cs.dropWhile Char.isDigit
  let (places, rest) := match rest with
    | '.' :: rest => (rest.takeWhile Char.isDigit, rest.dropWhile Char.isDigit)
    | rest => ([], rest)
  if whole.isEmpty && places.isEmpty then none
  let exponent ← match rest with
    | [] => some 0
    | e :: rest =>
      if e = 'e' || e = 'E' then
        let (sign, digits) := splitSign rest
        (naturalOf? 10 digits).map fun n => if sign = some '-' then -(n : Int) else n
      else none
  return (whole, places, exponent)

/-- The finite floating-point number that a text stands for. -/
def finiteOf? (cs : List Char) : Option Binary64 := do
  let (sign, body) := splitSign cs
  let (whole, places, exponent) ← decimalParts? body
  let digits ← naturalOf? 10 (whole ++ places)
  let x := Binary64.ofDecimal (sign = some '-') digits (exponent - places.length)
  if x.isFinite then some x else none

/-- The floating-point number that a text stands for. -/
def floatOf? (s : String) : Option Binary64 :=
  if [".inf", ".Inf", ".INF", "+.inf", "+.Inf", "+.INF"].contains s then
    some (Binary64.infinity false)
  else if ["-.inf", "-.Inf", "-.INF"].contains s then some (Binary64.infinity true)
  else if [".nan", ".NaN", ".NAN"].contains s then some Binary64.nan
  else finiteOf? s.toList

end Converge.Yaml
