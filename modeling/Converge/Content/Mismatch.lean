import Converge.Decimal.Layout
import Converge.Text.Find
import Converge.Text.Quoted

/-!
# Mismatches between content and type

Content that does not have the form a type asks for is refused for one of a few
causes. The words depend, for a null and for a floating-point number, on the format
the content was read from; everything else is said alike.
-/

namespace Converge

/-- What stood where something else was expected. -/
inductive Found where
  | null
  | bool (b : Bool)
  | int (n : Int)
  | float (x : Binary64)
  | str (s : String)
  | sequence
  | map
  | variant
deriving DecidableEq

/-- The format that content was read from. -/
inductive Wording where
  | json
  | yaml
deriving DecidableEq

inductive Mismatch where
  /-- The kind of value is not the expected one. -/
  | invalidType (found : Found) (expected : String)
  /-- The kind of value is right, the value is not. -/
  | invalidValue (found : Found) (expected : String)
  | missingField (name : String)
  | duplicateField (name : String)
  | unknownVariant (name : String) (expected : List String)
  | invalidLength (length : Nat) (expected : String)
  /-- None of the forms of a type without tag fits. -/
  | noForm (type : String)
  /-- A tagged value stands in content whose type is chosen by a field. -/
  | taggedContent
  /-- A text is no timestamp. -/
  | timestamp (reason : String)
deriving DecidableEq

/-- A floating-point number in a mismatch. -/
def Wording.float : Wording → Binary64 → String
  | .json, x => Decimal.Layout.document.write x
  | .yaml, x =>
    if x.isFinite then Decimal.Layout.positionalOnly.write x
    else if x.isNaN then "NaN"
    else if x.negative then "-inf" else "inf"

/-- What is said of an integer that does not fit 64 bits. -/
def width (n : Int) : String :=
  if fits 64 n then "" else if n < 0 then " as i128" else " as u128"

def Found.describe (wording : Wording) : Found → String
  | .null => match wording with
    | .json => "null"
    | .yaml => "unit value"
  | .bool b => "boolean `" ++ toString b ++ "`"
  | .int n => "integer `" ++ toString n ++ "`" ++ width n
  | .float x => "floating point `" ++ wording.float x ++ "`"
  | .str s => "string " ++ Text.quoted s
  | .sequence => "sequence"
  | .map => "map"
  | .variant => "enum"

/-- Alternatives: one, two with `or`, more as a list. -/
def oneOf : List String → String
  | [a] => "`" ++ a ++ "`"
  | [a, b] => "`" ++ a ++ "` or `" ++ b ++ "`"
  | names => "one of " ++ Text.joinWith ", " (names.map fun a => "`" ++ a ++ "`")

def Mismatch.message (wording : Wording) : Mismatch → String
  | .invalidType found expected =>
    "invalid type: " ++ found.describe wording ++ ", expected " ++ expected
  | .invalidValue found expected =>
    "invalid value: " ++ found.describe wording ++ ", expected " ++ expected
  | .missingField name => "missing field `" ++ name ++ "`"
  | .duplicateField name => "duplicate field `" ++ name ++ "`"
  | .unknownVariant name expected =>
    "unknown variant `" ++ name ++ "`, expected " ++ oneOf expected
  | .invalidLength length expected =>
    "invalid length " ++ toString length ++ ", expected " ++ expected
  | .noForm type => "data did not match any variant of untagged enum " ++ type
  | .timestamp reason => reason
  | .taggedContent => "untagged and internally tagged enums do not support enum input"

/-- A number of elements in words. -/
def elements (n : Nat) : String := if n = 1 then "1 element" else toString n ++ " elements"

end Converge
