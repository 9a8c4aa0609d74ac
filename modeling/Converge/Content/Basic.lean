import Converge.Content.Mismatch
import Converge.Json.Basic

/-!
# Content

Content is what a document holds before a type is asked of it. It is more than
JSON in one respect: the keys of a map may be anything. JSON is content, and
content whose keys are texts is JSON again.
-/

namespace Converge

inductive Content where
  | null
  | bool (b : Bool)
  | int (n : Int)
  | float (x : Binary64)
  | str (s : String)
  | seq (items : List Content)
  | map (entries : List (Content × Content))
deriving Inhabited

namespace Content

def found : Content → Found
  | .null => .null
  | .bool b => .bool b
  | .int n => .int n
  | .float x => .float x
  | .str s => .str s
  | .seq _ => .sequence
  | .map _ => .map

mutual
def ofJson : Json → Content
  | .null => .null
  | .bool b => .bool b
  | .int n => .int n
  | .float x => .float x
  | .str s => .str s
  | .arr items => .seq (ofItems items)
  | .obj fields => .map (ofFields fields)

def ofItems : List Json → List Content
  | [] => []
  | v :: rest => ofJson v :: ofItems rest

def ofFields : List (String × Json) → List (Content × Content)
  | [] => []
  | (name, v) :: rest => (.str name, ofJson v) :: ofFields rest
end

/-- The text of a key. -/
def keyText (expected : String) : Content → Except Mismatch String
  | .str s => .ok s
  | key => .error (.invalidType key.found expected)

mutual
/-- Content as JSON. A number that is not finite becomes null. -/
def toJson : Content → Except Mismatch Json
  | .null => .ok .null
  | .bool b => .ok (.bool b)
  | .int n => .ok (.int n)
  | .float x => .ok (if x.isFinite then .float x else .null)
  | .str s => .ok (.str s)
  | .seq items => do return .arr (← toItems items)
  | .map [] => .ok (.obj [])
  | .map ((key, v) :: rest) => do
    let name ← keyText "a string key" key
    let v ← toJson v
    let more ← toFields rest
    return .obj (Entries.putAll [] ((name, v) :: more))

def toItems : List Content → Except Mismatch (List Json)
  | [] => .ok []
  | c :: rest => do
    let v ← toJson c
    let more ← toItems rest
    return v :: more

def toFields : List (Content × Content) → Except Mismatch (List (String × Json))
  | [] => .ok []
  | (key, c) :: rest => do
    let name ← keyText "a string" key
    let v ← toJson c
    let more ← toFields rest
    return (name, v) :: more
end

end Content

end Converge
