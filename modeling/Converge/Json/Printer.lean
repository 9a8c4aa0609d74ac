import Converge.Decimal.Layout
import Converge.Json.Basic
import Converge.Text.Quoted

/-!
# Writing JSON

A value is written compactly, or with every item and field on a line of its own,
indented by two spaces for each level. An empty array or object is two brackets in
both forms. Numbers that are not finite have no JSON form and are written as `null`.
-/

namespace Converge.Json

/-- Whether items and fields stand on lines of their own. -/
inductive Form where
  | compact
  | pretty
deriving DecidableEq

/-- What stands before an item or a closing bracket at a level. -/
def Form.lineBreak : Form → Nat → List Char
  | .compact, _ => []
  | .pretty, level => '\n' :: List.replicate (2 * level) ' '

/-- What stands between a field's name and its value. -/
def Form.separator : Form → List Char
  | .compact => [':']
  | .pretty => [':', ' ']

/-- One character of a string. -/
def escapeChar (c : Char) : List Char :=
  if c = '"' then ['\\', '"']
  else if c = '\\' then ['\\', '\\']
  else if c = '\x08' then ['\\', 'b']
  else if c = '\x0c' then ['\\', 'f']
  else if c = '\n' then ['\\', 'n']
  else if c = '\r' then ['\\', 'r']
  else if c = '\t' then ['\\', 't']
  else if c.toNat < 0x20 then
    ['\\', 'u', '0', '0', Nat.digitChar (c.toNat / 16), Nat.digitChar (c.toNat % 16)]
  else [c]

/-- A string between its quotes. -/
def writeString (s : String) : List Char := '"' :: (s.toList.flatMap escapeChar ++ ['"'])

/-- A floating-point number, `null` if it is not finite. -/
def writeFloat (x : Binary64) : List Char :=
  if x.isFinite then (Decimal.Layout.document.write x).toList else "null".toList

mutual
/-- The characters of a value that stands at a level. -/
def write (form : Form) : Nat → Json → List Char
  | _, .null => "null".toList
  | _, .bool true => "true".toList
  | _, .bool false => "false".toList
  | _, .int n => (toString n).toList
  | _, .float x => writeFloat x
  | _, .str s => writeString s
  | _, .arr [] => ['[', ']']
  | level, .arr (v :: rest) =>
    '[' :: (form.lineBreak (level + 1) ++ write form (level + 1) v ++ writeItems form level rest)
  | _, .obj [] => ['{', '}']
  | level, .obj ((name, v) :: rest) =>
    '{' :: (form.lineBreak (level + 1) ++ writeString name ++ form.separator ++
      write form (level + 1) v ++ writeFields form level rest)

/-- The items after the first one, and the closing bracket. -/
def writeItems (form : Form) : Nat → List Json → List Char
  | level, [] => form.lineBreak level ++ [']']
  | level, v :: rest =>
    ',' :: (form.lineBreak (level + 1) ++ write form (level + 1) v ++ writeItems form level rest)

/-- The fields after the first one, and the closing brace. -/
def writeFields (form : Form) : Nat → List (String × Json) → List Char
  | level, [] => form.lineBreak level ++ ['}']
  | level, (name, v) :: rest =>
    ',' :: (form.lineBreak (level + 1) ++ writeString name ++ form.separator ++
      write form (level + 1) v ++ writeFields form level rest)
end

/-- The compact text of a value. -/
def compact (v : Json) : String := String.ofList (write .compact 0 v)

/-- The indented text of a value. -/
def pretty (v : Json) : String := String.ofList (write .pretty 0 v)

end Converge.Json
