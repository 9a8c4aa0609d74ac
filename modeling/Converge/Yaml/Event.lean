import Converge.Yaml.Scan

/-!
# Events of a YAML text

The structure of a text as a list of events: collections open and close, scalars and
aliases stand between. Missing scalars are filled in as empty ones. A machine with a
stack of states reads tokens and gives one event at each step; where the tokens have no
structure, or have run out, it stops.
-/

namespace Converge.Yaml

/-- What stands before a node: an anchor and a tag, and where the node begins. -/
structure Properties where
  anchor : Option String
  tag : Option String
  start : Mark
deriving DecidableEq, Repr

inductive Event where
  | scalar (properties : Properties) (text : String) (style : Style)
  | alias (name : String)
  | sequenceStart (properties : Properties)
  | sequenceEnd
  | mappingStart (properties : Properties)
  | mappingEnd
  | documentStart
  | documentEnd
  | streamEnd
deriving DecidableEq, Repr

/-- What the machine expects next. -/
inductive State where
  | firstDocument
  | document
  | documentContent
  | documentEnd
  | blockNode
  | blockSequenceEntry
  | indentlessEntry
  | blockMappingKey
  | blockMappingValue
  | flowSequenceFirst
  | flowSequenceEntry
  | pairKey
  | pairValue
  | pairEnd
  | flowMappingFirst
  | flowMappingKey
  | flowMappingValue
  | flowMappingNoValue
  | finished
deriving DecidableEq, Repr

structure Machine where
  tokens : List Placed
  state : State
  /-- What is expected when the present collection has ended, the innermost first. -/
  stack : List State
  /-- The tag handles of the document. -/
  handles : List (String × String)

namespace Machine

def ofTokens (tokens : List Placed) : Machine := ⟨tokens, .firstDocument, [], []⟩

/-- What a step gives; nothing where the tokens have no structure. -/
abbrev Result : Type := Option (Event × Machine)

def skip (m : Machine) : Machine := { m with tokens := m.tokens.drop 1 }

def goto (m : Machine) (state : State) : Machine := { m with state := state }

/-- Come back to a state later. -/
def push (m : Machine) (state : State) : Machine := { m with stack := state :: m.stack }

/-- Go back to the last state left for later. -/
def pop (m : Machine) : Machine :=
  { m with state := m.stack.headD .finished, stack := m.stack.drop 1 }

def emptyScalar (m : Machine) (start : Mark) : Result :=
  some (.scalar ⟨none, none, start⟩ "" .plain, m)

/-- The tag that a handle and a suffix stand for. -/
def resolveTag (m : Machine) (handle suffix : String) : Option String :=
  if handle.isEmpty then some suffix
  else (m.handles.find? fun h => h.1 = handle).map fun h => h.2 ++ suffix

/-- Read an anchor and a tag, in either order, if they are there. -/
def properties (m : Machine) : Option (Properties × Machine) :=
  match m.tokens with
  | ⟨.anchor name, start⟩ :: rest =>
    match rest with
    | ⟨.tag handle suffix, _⟩ :: rest => do
      let tag ← m.resolveTag handle suffix
      return (⟨some name, some tag, start⟩, { m with tokens := rest })
    | _ => some (⟨some name, none, start⟩, { m with tokens := rest })
  | ⟨.tag handle suffix, start⟩ :: rest => do
    let tag ← m.resolveTag handle suffix
    match rest with
    | ⟨.anchor name, _⟩ :: rest =>
      return (⟨some name, some tag, start⟩, { m with tokens := rest })
    | _ => return (⟨none, some tag, start⟩, { m with tokens := rest })
  | ⟨_, start⟩ :: _ => some (⟨none, none, start⟩, m)
  | [] => none

/-- A node that is nothing but its properties. -/
def bare (m : Machine) (p : Properties) : Result :=
  if p.anchor.isSome || p.tag.isSome then some (.scalar p "" .plain, m.pop) else none

/-- Read a node. Blocks may open only in block context; a sequence without indentation
may only be the key or value of a block mapping. -/
def node (m : Machine) (inBlock indentless : Bool) : Result :=
  match m.tokens with
  | ⟨.alias name, _⟩ :: _ => some (.alias name, m.skip.pop)
  | _ => do
    let (p, m) ← m.properties
    match m.tokens with
    | ⟨.blockEntry, _⟩ :: _ =>
      if indentless then some (.sequenceStart p, m.goto .indentlessEntry) else m.bare p
    | ⟨.scalar text style, _⟩ :: _ =>
      let p := if p.tag = some "!" then { p with tag := none } else p
      some (.scalar p text style, m.skip.pop)
    | ⟨.flowSequenceStart, _⟩ :: _ => some (.sequenceStart p, m.skip.goto .flowSequenceFirst)
    | ⟨.flowMappingStart, _⟩ :: _ => some (.mappingStart p, m.skip.goto .flowMappingFirst)
    | ⟨.blockSequenceStart, _⟩ :: _ =>
      if inBlock then some (.sequenceStart p, m.skip.goto .blockSequenceEntry) else m.bare p
    | ⟨.blockMappingStart, _⟩ :: _ =>
      if inBlock then some (.mappingStart p, m.skip.goto .blockMappingKey) else m.bare p
    | _ => m.bare p

/-- Is the next token one of these? -/
def nextIs (m : Machine) (p : Token → Bool) : Bool := (m.tokens.head?.map (p ·.token)).getD false

/-- Read the directives of a document: the version, which may be 1.1 or 1.2 and stands
at most once, and tag handles, which are distinct. -/
def directives (versioned : Bool) (handles : List (String × String)) :
    List Placed → Option (List (String × String) × List Placed)
  | ⟨.versionDirective major minor, _⟩ :: rest =>
    if versioned || major ≠ 1 || (minor ≠ 1 && minor ≠ 2) then none
    else directives true handles rest
  | ⟨.tagDirective handle replacement, _⟩ :: rest =>
    if (handles.find? fun h => h.1 = handle).isSome then none
    else directives versioned (handles ++ [(handle, replacement)]) rest
  | rest => some (handles, rest)

/-- The handles that every document has, unless it gives them another meaning. -/
def standardHandles : List (String × String) := [("!", "!"), ("!!", "tag:yaml.org,2002:")]

/-- Begin a document that is announced. -/
def announced (m : Machine) : Result := do
  let (handles, tokens) ← directives false [] m.tokens
  match tokens with
  | ⟨.documentStart, _⟩ :: rest =>
    some (.documentStart, ({ m with tokens := rest, handles := handles ++ standardHandles }.push
      .documentEnd).goto .documentContent)
  | _ => none

def isDocumentToken : Token → Bool
  | .versionDirective .. | .tagDirective .. | .documentStart | .documentEnd | .streamEnd => true
  | _ => false

def isBlockMappingToken : Token → Bool
  | .key | .value | .blockEnd => true
  | _ => false

/-- An item of a flow sequence, or its end. -/
def sequenceItem (m : Machine) : Result :=
  match m.tokens with
  | [] => none
  | ⟨.flowSequenceEnd, _⟩ :: _ => some (.sequenceEnd, m.skip.pop)
  | ⟨.key, start⟩ :: _ => some (.mappingStart ⟨none, none, start⟩, m.skip.goto .pairKey)
  | _ => (m.push .flowSequenceEntry).node false false

/-- A key of a flow mapping, or the end of the mapping. -/
def mappingItem (m : Machine) : Result :=
  match m.tokens with
  | [] => none
  | ⟨.flowMappingEnd, _⟩ :: _ => some (.mappingEnd, m.skip.pop)
  | ⟨.key, start⟩ :: _ =>
    let m := m.skip
    if m.tokens.isEmpty then none
    else if m.nextIs fun t => t = .value || t = .flowEntry || t = .flowMappingEnd then
      (m.goto .flowMappingValue).emptyScalar start
    else (m.push .flowMappingValue).node false false
  | _ => (m.push .flowMappingNoValue).node false false

/-- One step. -/
def step (m : Machine) : Result :=
  match m.state, m.tokens with
  | .finished, _ => none
  | _, [] => none
  | .firstDocument, ⟨token, _⟩ :: _ =>
    match token with
    | .streamEnd => some (.streamEnd, m.skip.goto .finished)
    | .versionDirective .. | .tagDirective .. | .documentStart => m.announced
    | _ =>
      some (.documentStart,
        ({ m with handles := standardHandles }.push .documentEnd).goto .blockNode)
  | .document, _ =>
    let m := { m with tokens := m.tokens.dropWhile fun t => t.token = Token.documentEnd }
    match m.tokens with
    | [] => none
    | ⟨.streamEnd, _⟩ :: _ => some (.streamEnd, m.skip.goto .finished)
    | _ => m.announced
  | .documentContent, ⟨token, start⟩ :: _ =>
    if isDocumentToken token then m.pop.emptyScalar start else m.node true false
  | .documentEnd, ⟨token, _⟩ :: _ =>
    some (.documentEnd, (if token = .documentEnd then m.skip else m).goto .document)
  | .blockNode, _ => m.node true false
  | .blockSequenceEntry, ⟨.blockEntry, start⟩ :: _ =>
    let m := m.skip
    if m.tokens.isEmpty then none
    else if m.nextIs fun t => t = .blockEntry || t = .blockEnd then
      (m.goto .blockSequenceEntry).emptyScalar start
    else (m.push .blockSequenceEntry).node true false
  | .blockSequenceEntry, ⟨.blockEnd, _⟩ :: _ => some (.sequenceEnd, m.skip.pop)
  | .blockSequenceEntry, _ => none
  | .indentlessEntry, ⟨.blockEntry, start⟩ :: _ =>
    let m := m.skip
    if m.tokens.isEmpty then none
    else if m.nextIs fun t => t = .blockEntry || isBlockMappingToken t then
      (m.goto .indentlessEntry).emptyScalar start
    else (m.push .indentlessEntry).node true false
  | .indentlessEntry, _ => some (.sequenceEnd, m.pop)
  | .blockMappingKey, ⟨.key, start⟩ :: _ =>
    let m := m.skip
    if m.tokens.isEmpty then none
    else if m.nextIs isBlockMappingToken then (m.goto .blockMappingValue).emptyScalar start
    else (m.push .blockMappingValue).node true true
  | .blockMappingKey, ⟨.blockEnd, _⟩ :: _ => some (.mappingEnd, m.skip.pop)
  | .blockMappingKey, _ => none
  | .blockMappingValue, ⟨.value, start⟩ :: _ =>
    let m := m.skip
    if m.tokens.isEmpty then none
    else if m.nextIs isBlockMappingToken then (m.goto .blockMappingKey).emptyScalar start
    else (m.push .blockMappingKey).node true true
  | .blockMappingValue, ⟨_, start⟩ :: _ => (m.goto .blockMappingKey).emptyScalar start
  | .flowSequenceFirst, _ => m.sequenceItem
  | .flowSequenceEntry, ⟨.flowSequenceEnd, _⟩ :: _ => some (.sequenceEnd, m.skip.pop)
  | .flowSequenceEntry, ⟨.flowEntry, _⟩ :: _ => m.skip.sequenceItem
  | .flowSequenceEntry, _ => none
  | .pairKey, ⟨token, start⟩ :: _ =>
    if token = .value || token = .flowEntry || token = .flowSequenceEnd then
      (m.skip.goto .pairValue).emptyScalar start
    else (m.push .pairValue).node false false
  | .pairValue, ⟨.value, start⟩ :: _ =>
    let m := m.skip
    if m.tokens.isEmpty then none
    else if m.nextIs fun t => t = .flowEntry || t = .flowSequenceEnd then
      (m.goto .pairEnd).emptyScalar start
    else (m.push .pairEnd).node false false
  | .pairValue, ⟨_, start⟩ :: _ => (m.goto .pairEnd).emptyScalar start
  | .pairEnd, _ => some (.mappingEnd, m.goto .flowSequenceEntry)
  | .flowMappingFirst, _ => m.mappingItem
  | .flowMappingKey, ⟨.flowMappingEnd, _⟩ :: _ => some (.mappingEnd, m.skip.pop)
  | .flowMappingKey, ⟨.flowEntry, _⟩ :: _ => m.skip.mappingItem
  | .flowMappingKey, _ => none
  | .flowMappingNoValue, ⟨_, start⟩ :: _ => (m.goto .flowMappingKey).emptyScalar start
  | .flowMappingValue, ⟨.value, start⟩ :: _ =>
    let m := m.skip
    if m.tokens.isEmpty then none
    else if m.nextIs fun t => t = .flowEntry || t = .flowMappingEnd then
      (m.goto .flowMappingKey).emptyScalar start
    else (m.push .flowMappingKey).node false false
  | .flowMappingValue, ⟨_, start⟩ :: _ => (m.goto .flowMappingKey).emptyScalar start

/-- Take steps up to the end of the stream or a fault, and tell which it is. -/
def run : (fuel : Nat) → Machine → List Event × Bool
  | 0, _ => ([], false)
  | fuel + 1, m =>
    match m.step with
    | none => ([], false)
    | some (.streamEnd, _) => ([], true)
    | some (event, m) =>
      let (events, complete) := run fuel m
      (event :: events, complete)

end Machine

/-- The events of a text up to its end or to a fault, and whether its end was reached.
Between two tokens there are at most four events. -/
def events (text : String) : List Event × Bool :=
  let tokens := scan text
  (Machine.ofTokens tokens).run (4 * tokens.length + 8)

end Converge.Yaml
