import Converge.Content.Reading

/-!
# Reading choices

A choice between named alternatives without content of their own. An alternative is
given by its name, or as the only key of a map whose value is nothing; as a key it
may also be given by its position.
-/

namespace Converge.Content

/-- The alternative with a name. -/
def alternative {α : Type} (options : List (String × α)) (name : String) : Except Mismatch α :=
  match Entries.get? name options with
  | some a => .ok a
  | none => .error (.unknownVariant name (options.map Prod.fst))

/-- The alternative that a name or a position stands for. -/
def identifier {α : Type} (options : List (String × α)) : Content → Except Mismatch α
  | .str name => alternative options name
  | .int n =>
    if 0 ≤ n then
      match options[n.toNat]? with
      | some (_, a) => .ok a
      | none =>
        .error (.invalidValue (.int n) ("variant index 0 <= i < " ++ toString options.length))
    else .error (.invalidType (.int n) "variant identifier")
  | c => .error (.invalidType c.found "variant identifier")

/-- Nothing: a null or an empty map. -/
def nothing : Content → Except Mismatch Unit
  | .null => .ok ()
  | .map [] => .ok ()
  | c => .error (.invalidType c.found "unit")

/-- A choice by name or by a map with one key. -/
def choice {α : Type} (options : List (String × α)) : Content → Except Mismatch α
  | .str name => alternative options name
  | .map [(key, c)] => do
    let a ← identifier options key
    nothing c
    return a
  | .map _ => .error (.invalidValue .map "map with a single key")
  | c => .error (.invalidType c.found "string or map")

end Converge.Content
