import Converge.Content.Basic
import Converge.Failure
import Converge.Yaml.Event
import Converge.Yaml.Scalar

/-!
# Nodes of a YAML text

A document is put together from its events. An alias stands for a copy of its anchor's
node. Collections nest at most 128 deep, copies count, and the number of copies is
bounded too. The keys of a mapping are distinct.

A fault is told in words only if it needs no place to go with it, that is, if it
concerns the very first node of the text; every other fault is a fault in the text.
-/

namespace Converge.Yaml

inductive Node where
  | null
  | bool (b : Bool)
  | int (n : Int)
  | float (x : Binary64)
  | str (s : String)
  | seq (items : List Node)
  | map (entries : List (Node × Node))
  | tagged (tag : String) (node : Node)
deriving Inhabited

namespace Node

/-- Are two floating-point keys the same? Zeros are, and so are all that are no
numbers. -/
def sameFloat (x y : Binary64) : Bool :=
  x = y || (x.isZero && y.isZero) || (x.isNaN && y.isNaN)

mutual
/-- Are two nodes the same key? The order of a mapping's entries does not count. -/
def same : Node → Node → Bool
  | .null, .null => true
  | .bool a, .bool b => a = b
  | .int a, .int b => a = b
  | .float a, .float b => sameFloat a b
  | .str a, .str b => a = b
  | .seq a, .seq b => sameItems a b
  | .map a, .map b => a.length = b.length && within a b
  | .tagged s a, .tagged t b => s = t && same a b
  | _, _ => false

def sameItems : List Node → List Node → Bool
  | [], [] => true
  | a :: as, b :: bs => same a b && sameItems as bs
  | _, _ => false

/-- Is each entry of the first list among those of the second? -/
def within : List (Node × Node) → List (Node × Node) → Bool
  | [], _ => true
  | (key, value) :: rest, others =>
    (others.any fun other => same key other.1 && same value other.2) && within rest others
end

/-- A node without the tags around it. -/
def untag : Node → Node
  | .tagged _ n => untag n
  | n => n

/-- What the node is called where another was expected. -/
def found : Node → Found
  | .null => .null
  | .bool b => .bool b
  | .int n => .int n
  | .float x => .float x
  | .str s => .str s
  | .seq _ => .sequence
  | .map _ => .map
  | .tagged _ _ => .variant

mutual
/-- The node as content, if no tag stands in it. -/
def toContent : Node → Except Mismatch Content
  | .null => .ok .null
  | .bool b => .ok (.bool b)
  | .int n => .ok (.int n)
  | .float x => .ok (.float x)
  | .str s => .ok (.str s)
  | .seq items => do return .seq (← toItems items)
  | .map entries => do return .map (← toEntries entries)
  | .tagged _ _ => .error .taggedContent

def toItems : List Node → Except Mismatch (List Content)
  | [] => .ok []
  | n :: rest => do
    let c ← toContent n
    let more ← toItems rest
    return c :: more

def toEntries : List (Node × Node) → Except Mismatch (List (Content × Content))
  | [] => .ok []
  | (key, value) :: rest => do
    let key ← toContent key
    let value ← toContent value
    let more ← toEntries rest
    return (key, value) :: more
end

/-- A floating-point number as the key of a mapping: without exponent, and without a
point where there is no fraction. -/
def floatKeyText (x : Binary64) : String :=
  if x.isNaN then ".nan"
  else if x.isInfinite then if x.negative then "-.inf" else ".inf"
  else Decimal.Layout.bare.write x

/-- How a repeated key is told, if it can be. -/
def keyText? : Node → Option String
  | .bool b => some ("`" ++ toString b ++ "`")
  | .int n => some (toString n)
  | .float x => some (floatKeyText x)
  | .str s => some (Text.quoted s)
  | _ => none

end Node

/-- An event of a document in which aliases are resolved to the number of an anchor. -/
inductive Item where
  | scalar (p : Properties) (text : String) (style : Style)
  | copy (anchor : Nat)
  | sequenceStart (p : Properties)
  | sequenceEnd
  | mappingStart (p : Properties)
  | mappingEnd

/-- The events of one document, and where the node of each anchor number begins. A
document that ends in a fault holds what came before it. -/
structure Source where
  items : Array Item
  anchors : List (Nat × Nat)
  faulty : Bool

namespace Source

/-- Read a document's events: the document and the events behind it. The number of an
anchor is the number of distinct names before it, so a name given again may take over
the number of another; `names` holds the names with their numbers. -/
def read (names : List (String × Nat)) (s : Source) : List Event → Source × List Event
  | [] => ({ s with faulty := true }, [])
  | .documentEnd :: rest => (s, rest)
  | .streamEnd :: rest => (s, rest)
  | .documentStart :: rest => read names s rest
  | .alias name :: rest =>
    match Entries.get? name names with
    | some number => read names { s with items := s.items.push (.copy number) } rest
    | none => ({ s with faulty := true }, rest)
  | .scalar p text style :: rest =>
    let (names, s) := anchored names s p
    read names { s with items := s.items.push (.scalar p text style) } rest
  | .sequenceStart p :: rest =>
    let (names, s) := anchored names s p
    read names { s with items := s.items.push (.sequenceStart p) } rest
  | .mappingStart p :: rest =>
    let (names, s) := anchored names s p
    read names { s with items := s.items.push (.mappingStart p) } rest
  | .sequenceEnd :: rest => read names { s with items := s.items.push .sequenceEnd } rest
  | .mappingEnd :: rest => read names { s with items := s.items.push .mappingEnd } rest
where
  /-- Note the anchor of the node that begins here. -/
  anchored (names : List (String × Nat)) (s : Source) (p : Properties) :
      List (String × Nat) × Source :=
    match p.anchor with
    | none => (names, s)
    | some name =>
      (Entries.put name names.length names,
        { s with anchors := Entries.put names.length s.items.size s.anchors })

end Source

/-- Where reading stands: the next item, and the number of copies made so far. -/
structure Position where
  item : Nat
  copies : Nat

/-- A fault that can be told only of the first node of a text. -/
def told (isTold : Bool) (fault : UnreadableFile) : UnreadableFile :=
  if isTold then fault else .text

/-- The value of a plain scalar; integers of more than 64 bits are refused. -/
def plainNode (isTold : Bool) (text : String) : Except UnreadableFile Node :=
  if text.isEmpty || isNullText text then .ok .null
  else match boolOf? text with
  | some b => .ok (.bool b)
  | none =>
    match (integerOf? text).map fun n => (n, widthOf n) with
    | some (n, .word) => .ok (.int n)
    | some (n, .double) => .error (told isTold (.value (.invalidType (.int n) "any YAML value")))
    | _ =>
      match if isZeroLed text.toList then none else floatOf? text with
      | some x => .ok (.float x)
      | none => .ok (.str text)

def coreTag (name : String) : String := "tag:yaml.org,2002:" ++ name

/-- The value of a scalar. A core tag asks for its type; any other tag that is not local
makes the scalar a text. -/
def scalarNode (isTold : Bool) (tag : Option String) (text : String) (style : Style) :
    Except UnreadableFile Node :=
  let refused (expected : String) : Except UnreadableFile Node :=
    .error (told isTold (.value (.invalidValue (.str text) expected)))
  match tag with
  | none => if style = .plain then plainNode isTold text else .ok (.str text)
  | some tag =>
    if tag = coreTag "bool" then
      match boolOf? text with
      | some b => .ok (.bool b)
      | none => refused "a boolean"
    else if tag = coreTag "int" then
      match (integerOf? text).map fun n => (n, widthOf n) with
      | some (n, .word) => .ok (.int n)
      | some (n, .double) =>
        .error (told isTold (.value (.invalidType (.int n) "any YAML value")))
      | _ => refused "an integer"
    else if tag = coreTag "float" then
      match floatOf? text with
      | some x => .ok (.float x)
      | none => refused "a float"
    else if tag = coreTag "null" then
      if isNullText text then .ok .null else refused "null"
    else .ok (.str text)

/-- The local tag of a node: what stands behind its exclamation mark. -/
def localTag? (p : Properties) : Option String :=
  match p.tag.map String.toList with
  | some ('!' :: rest) => some (String.ofList rest)
  | _ => none

/-- Read the items of a sequence up to its end. -/
def sequenceNodes (s : Source) (read : Position → Except UnreadableFile (Node × Position)) :
    (fuel : Nat) → Position → Except UnreadableFile (List Node × Position)
  | 0, _ => .error .text
  | fuel + 1, pos =>
    match s.items[pos.item]? with
    | none => .error .text
    | some .sequenceEnd => .ok ([], { pos with item := pos.item + 1 })
    | some _ => do
      let (n, pos) ← read pos
      let (more, pos) ← sequenceNodes s read fuel pos
      return (n :: more, pos)

/-- Read the entries of a mapping up to its end; those before are in `seen`. -/
def mappingNodes (s : Source) (isTold : Bool)
    (readKey readValue : Position → Except UnreadableFile (Node × Position)) :
    (fuel : Nat) → (seen : List (Node × Node)) → Position →
      Except UnreadableFile (List (Node × Node) × Position)
  | 0, _, _ => .error .text
  | fuel + 1, seen, pos =>
    match s.items[pos.item]? with
    | none => .error .text
    | some .mappingEnd => .ok (seen, { pos with item := pos.item + 1 })
    | some _ => do
      let (key, pos) ← readKey pos
      if let some (first, _) := seen.find? fun entry => entry.1.same key then
        throw (match first.keyText? with
          | some text => told isTold (.repeatedKey text)
          | none => .text)
      let (value, pos) ← readValue pos
      mappingNodes s isTold readKey readValue fuel (seen ++ [(key, value)]) pos

/-- Where the node at a position is written, the number of copies made with it, and the
item behind it if it is a copy. -/
def Source.target (s : Source) (pos : Position) :
    Except UnreadableFile (Nat × Nat × Option Nat) :=
  match s.items[pos.item]? with
  | some (.copy anchor) =>
    if 100 * s.items.size < pos.copies + 1 then .error .text
    else match Entries.get? anchor s.anchors with
      | some target => .ok (target, pos.copies + 1, some (pos.item + 1))
      | none => .error .text
  | _ => .ok (pos.item, pos.copies, none)

/-- Put the local tag of a node around it. -/
def withTag (p : Properties) (n : Node) : Except UnreadableFile Node :=
  match localTag? p with
  | none => .ok n
  | some tag => if tag.isEmpty then .error .text else .ok (.tagged tag n)

/-- Read the node at a position. `depth` collections may still be opened, and `isRoot`
tells whether the node is the document or a key of it. -/
def composeNode (s : Source) :
    (depth : Nat) → (isRoot : Bool) → Position → Except UnreadableFile (Node × Position)
  | depth, isRoot, pos => do
    let (start, copies, after) ← s.target pos
    let inside : Position := ⟨start + 1, copies⟩
    let leave (p : Properties) (n : Node) (pos : Position) :
        Except UnreadableFile (Node × Position) := do
      return (← withTag p n, { pos with item := after.getD pos.item })
    match s.items[start]? with
    | some (.scalar p text style) =>
      let tag := if (localTag? p).isSome then none else p.tag
      let n ← scalarNode (isRoot && p.start.isOrigin) tag text style
      leave p n inside
    | some (.sequenceStart p) =>
      match depth with
      | 0 => throw UnreadableFile.text
      | depth + 1 =>
        let (items, pos) ←
          sequenceNodes s (composeNode s depth false) (s.items.size + 1) inside
        leave p (.seq items) pos
    | some (.mappingStart p) =>
      match depth with
      | 0 => throw UnreadableFile.text
      | depth + 1 =>
        let (entries, pos) ←
          mappingNodes s (isRoot && p.start.isOrigin) (composeNode s depth isRoot)
            (composeNode s depth false) (s.items.size + 1) [] inside
        leave p (.map entries) pos
    | _ => throw UnreadableFile.text

/-- How deep collections may nest. -/
def maxNesting : Nat := 128

/-- The node of a document. -/
def Source.node (s : Source) : Except UnreadableFile Node := do
  let (n, _) ← composeNode s maxNesting true ⟨0, 0⟩
  if s.faulty then throw UnreadableFile.text
  return n

end Converge.Yaml
