import Converge.Content.Basic

/-!
# Reading content

Texts, numbers, sequences and maps are read strictly: a number is no text, a null is
no empty sequence. Only an optional value may be null.
-/

namespace Converge.Content

def text : Content → Except Mismatch String
  | .str s => .ok s
  | c => .error (.invalidType c.found "a string")

def boolean : Content → Except Mismatch Bool
  | .bool b => .ok b
  | c => .error (.invalidType c.found "a boolean")

def int32 : Content → Except Mismatch Int
  | .int n => if fitsSigned 32 n then .ok n else .error (.invalidValue (.int n) "i32")
  | c => .error (.invalidType c.found "i32")

/-- Null, or a value read by the given reader. -/
def optional {α : Type} (read : Content → Except Mismatch α) : Content → Except Mismatch (Option α)
  | .null => .ok none
  | c => do return some (← read c)

/-- Items read one after another. -/
def sequence {α : Type} (read : Content → Except Mismatch α) : Content → Except Mismatch (List α)
  | .seq items => items.mapM read
  | c => .error (.invalidType c.found "a sequence")

/-- A map of texts, in the order of its keys. -/
def texts : Content → Except Mismatch (Table String String)
  | .map entries => do
    let pairs ← entries.mapM fun (key, c) => do
      let key ← text key
      let value ← text c
      return (key, value)
    return Table.ofList pairs
  | c => .error (.invalidType c.found "a map")

end Converge.Content
