import Converge.Text.Blank
import Converge.Width

/-!
# Timestamps

A timestamp is a date, a time and an offset; it is written anew to the second, without
offset. Numbers may have fewer digits than usual and blanks may stand before them, the
date may be set off from the time by a space, and the sixtieth second is a leap second.
-/

namespace Converge.Timestamp

/-- What is wrong with a text that is no timestamp. -/
inductive Problem where
  | invalid
  | tooShort
  | tooLong
  | outOfRange
deriving DecidableEq, Repr

def Problem.message : Problem → String
  | .invalid => "input contains invalid characters"
  | .tooShort => "premature end of input"
  | .tooLong => "trailing input"
  | .outOfRange => "input is out of range"

/-- Date, time and offset as they are written. -/
structure Fields where
  year : Int
  month : Nat
  day : Nat
  hour : Nat
  minute : Nat
  second : Nat
  /-- Seconds east of universal time. -/
  offset : Int
deriving DecidableEq, Repr

def isLeap (year : Int) : Bool := year % 4 = 0 && (year % 100 != 0 || year % 400 = 0)

def daysInMonth (year : Int) (month : Nat) : Nat :=
  if month = 2 then if isLeap year then 29 else 28
  else if month = 4 || month = 6 || month = 9 || month = 11 then 30
  else 31

/-- The number of days from the first of January of year zero to a date. -/
def dayNumber (year : Int) (month day : Nat) : Int :=
  let before := year - 1
  let leaps := before / 4 - before / 100 + before / 400 + 1
  let months := (List.range (month - 1)).foldl (fun n m => n + daysInMonth year (m + 1)) 0
  365 * year + leaps + months + day - 1

/-- The month and the day of a day counted from the beginning of its year. -/
def monthAndDay (year : Int) : (months : List Nat) → (day : Nat) → Nat × Nat
  | [], day => (12, day + 1)
  | m :: rest, day =>
    if day < daysInMonth year m then (m, day + 1)
    else monthAndDay year rest (day - daysInMonth year m)

/-- The date of a day number. -/
def dateOf (n : Int) : Int × Nat × Nat :=
  let guess := n * 400 / 146097
  let year := if n < dayNumber guess 1 1 then guess - 1
    else if dayNumber (guess + 1) 1 1 ≤ n then guess + 1 else guess
  let (month, day) := monthAndDay year (List.range' 1 12) (n - dayNumber year 1 1).toNat
  (year, month, day)

def twoDigits (n : Nat) : String := if n < 10 then "0" ++ toString n else toString n

/-- A year in at least four digits, with a sign if it needs more or is negative. -/
def yearText (year : Int) : String :=
  let digits := toString year.natAbs
  let padded := String.ofList (List.replicate (4 - digits.length) '0') ++ digits
  if year < 0 then "-" ++ padded else if 9999 < year then "+" ++ padded else padded

/-- The timestamp in universal time. -/
def Fields.text (f : Fields) : String :=
  let wall := min f.second 59
  let total : Int := dayNumber f.year f.month f.day * 86400 +
    (f.hour * 3600 + f.minute * 60 + wall) - f.offset
  let (year, month, day) := dateOf (total / 86400)
  let rest := (total % 86400).toNat
  let second := rest % 60 + (f.second - wall)
  yearText year ++ "-" ++ twoDigits month ++ "-" ++ twoDigits day ++ "T" ++
    twoDigits (rest / 3600) ++ ":" ++ twoDigits (rest / 60 % 60) ++ ":" ++ twoDigits second ++ "Z"

def skipBlanks (cs : List Char) : List Char := cs.dropWhile Text.isBlankChar

/-- Read a number of at most `width` digits. -/
def number (width : Nat) (cs : List Char) : Except Problem (Nat × List Char) :=
  let digits := (cs.take width).takeWhile Char.isDigit
  if cs.isEmpty then .error .tooShort
  else if digits.isEmpty then .error .invalid
  else .ok (digits.foldl (fun n c => n * 10 + (c.toNat - 48)) 0, cs.drop digits.length)

/-- Read a number of two digits that lies in a range. -/
def ranged (low high : Nat) (cs : List Char) : Except Problem (Nat × List Char) := do
  let (n, rest) ← number 2 (skipBlanks cs)
  if low ≤ n ∧ n ≤ high then return (n, rest) else throw .outOfRange

/-- Read a year: four digits, or a sign and any number of digits. -/
def readYear (cs : List Char) : Except Problem (Int × List Char) :=
  match skipBlanks cs with
  | '-' :: rest => do
    let (n, rest) ← number rest.length rest
    return (-(n : Int), rest)
  | '+' :: rest => do
    let (n, rest) ← number rest.length rest
    return ((n : Int), rest)
  | rest => do
    let (n, rest) ← number 4 rest
    return ((n : Int), rest)

/-- Pass over a mark and the blanks before it. -/
def mark (c : Char) (cs : List Char) : Except Problem (List Char) :=
  match skipBlanks cs with
  | [] => .error .tooShort
  | x :: rest => if x = c then .ok rest else .error .invalid

/-- Pass over the digits of a fraction. -/
def fraction : List Char → Except Problem (List Char)
  | '.' :: rest => do
    let (_, _) ← number 9 rest
    return rest.dropWhile Char.isDigit
  | rest => .ok rest

/-- Read an offset behind its sign, in seconds. -/
def offsetDigits (cs : List Char) : Except Problem (Nat × List Char) :=
  match cs with
  | h₁ :: h₂ :: rest =>
    if !(h₁.isDigit && h₂.isDigit) then .error .invalid
    else
      match rest.dropWhile fun c => c = ':' || Text.isBlankChar c with
      | m₁ :: m₂ :: rest =>
        if !(m₁.isDigit && m₂.isDigit) then .error .invalid
        else if '6' ≤ m₁ then .error .outOfRange
        else
          let hours := (h₁.toNat - 48) * 10 + (h₂.toNat - 48)
          let minutes := (m₁.toNat - 48) * 10 + (m₂.toNat - 48)
          .ok (hours * 3600 + minutes * 60, rest)
      | _ => .error .tooShort
  | _ => .error .tooShort

/-- Read an offset. -/
def readOffset : List Char → Except Problem (Int × List Char)
  | [] => .error .tooShort
  | c :: rest =>
    if String.ofList ((c :: rest).take 3 |>.map Char.toUpper) = "UTC" then .ok (0, rest.drop 2)
    else if c = 'Z' || c = 'z' then .ok (0, rest)
    else if c = '+' then do
      let (n, rest) ← offsetDigits rest
      return ((n : Int), rest)
    else if c = '-' || c = '\u2212' then do
      let (n, rest) ← offsetDigits rest
      return (-(n : Int), rest)
    else .error .invalid

/-- Is the year one that dates are kept for? -/
def inCalendar (year : Int) : Bool := -262143 ≤ year && year ≤ 262142

/-- Read a timestamp. -/
def parse (text : String) : Except Problem Fields := do
  let (year, rest) ← readYear text.toList
  if !fitsSigned 32 year then throw .outOfRange
  let (month, rest) ← ranged 1 12 (← mark '-' rest)
  let (day, rest) ← ranged 1 31 (← mark '-' rest)
  let rest ← match rest with
    | [] => throw .tooShort
    | c :: rest => if c = 'T' || c = 't' || c = ' ' then pure rest else throw .invalid
  let (hour, rest) ← ranged 0 23 rest
  let (minute, rest) ← ranged 0 59 (← mark ':' rest)
  let (second, rest) ← ranged 0 60 (← mark ':' rest)
  let rest ← fraction rest
  let (offset, rest) ← readOffset (skipBlanks rest)
  if !(skipBlanks rest).isEmpty then throw .tooLong
  if !inCalendar year || daysInMonth year month < day || 86400 ≤ offset.natAbs then
    throw .outOfRange
  return ⟨year, month, day, hour, minute, second, offset⟩

end Converge.Timestamp
