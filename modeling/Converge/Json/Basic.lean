import Converge.Binary64
import Converge.Table

/-!
# JSON values

A value keeps the order of an object's fields. Numbers are integers or 64-bit
floating-point numbers, and the two never mix: `1` and `1.0` are different values.
-/

namespace Converge

inductive Json where
  | null
  | bool (b : Bool)
  | int (n : Int)
  | float (x : Binary64)
  | str (s : String)
  | arr (items : List Json)
  | obj (fields : List (String × Json))
deriving Inhabited

namespace Json

/-- The object of a table's entries. -/
def ofTable (t : Table String Json) : Json := .obj t.entries

/-- The object of a table of texts. -/
def ofTexts (t : Table String String) : Json := ofTable (t.mapValues Json.str)

def isNull : Json → Bool
  | .null => true
  | _ => false

def asString? : Json → Option String
  | .str s => some s
  | _ => none

/-- The integer, if it fits 64 bits with sign. -/
def asInt64? : Json → Option Int
  | .int n => if fitsSigned 64 n then some n else none
  | _ => none

/-- The value of an object's field. -/
def field? (name : String) : Json → Option Json
  | .obj fields => Entries.get? name fields
  | _ => none

/-- The value reached by going from field to field. -/
def at? : List String → Json → Option Json
  | [], v => some v
  | name :: path, v => (v.field? name).bind (at? path)

mutual
/-- Keep, of the fields with the same name, the first place and the last value. -/
def normalize : Json → Json
  | .null => .null
  | .bool b => .bool b
  | .int n => .int n
  | .float x => .float x
  | .str s => .str s
  | .arr items => .arr (normalizeItems items)
  | .obj fields => .obj (Entries.putAll [] (normalizeFields fields))

def normalizeItems : List Json → List Json
  | [] => []
  | v :: rest => normalize v :: normalizeItems rest

def normalizeFields : List (String × Json) → List (String × Json)
  | [] => []
  | (name, v) :: rest => (name, normalize v) :: normalizeFields rest
end

end Json

end Converge
