import Converge.Yaml.Folding

/-!
# Cutting a text into tokens

The tokens are read one after another. Two things make this more than a list of
readers. Indentation opens and closes blocks without a character for it. And a key may
stand before the colon that makes it one: where a key is possible, its place is kept,
and the colon puts the missing tokens there. A place is given up at the end of the line
or after 1024 characters; where nothing but a key could stand, that is a fault.

At a fault, the tokens from the first place still kept on are dropped, since what they
are was not decided.
-/

namespace Converge.Yaml

/-- A place where a key may turn out to stand. -/
structure KeyPlace where
  /-- The number of tokens before it. -/
  number : Nat
  /-- Can nothing but a key stand there? -/
  required : Bool
  mark : Mark
deriving DecidableEq, Repr

structure Scanner where
  cursor : Cursor
  /-- The tokens so far, the last one first. -/
  tokens : List Placed
  /-- The number of tokens so far. -/
  count : Nat
  /-- The indentations of the open blocks, the innermost first. -/
  indents : List Nat
  /-- The number of open flow collections. -/
  flow : Nat
  /-- May a key begin here without a question mark? -/
  keyAllowed : Bool
  /-- The places kept, one for each open flow collection and one for the block around
  them, the innermost first. -/
  keys : List (Option KeyPlace)

namespace Scanner

def ofText (text : List Char) : Scanner := ⟨⟨.start, text⟩, [], 0, [], 0, true, [none]⟩

def column (s : Scanner) : Nat := s.cursor.mark.column

/-- Add a token that begins at a mark. -/
def emit (s : Scanner) (token : Token) (mark : Mark) : Scanner :=
  { s with tokens := ⟨token, mark⟩ :: s.tokens, count := s.count + 1 }

/-- Put a token before all but the first `number` tokens. -/
def insertAt (s : Scanner) (number : Nat) (token : Token) (mark : Mark) : Scanner :=
  let later := s.count - number
  { s with
    tokens := s.tokens.take later ++ ⟨token, mark⟩ :: s.tokens.drop later
    count := s.count + 1 }

/-- Give up the places that no key can stand at any more. -/
def dropStaleKeys (s : Scanner) : Option Scanner := do
  let here := s.cursor.mark
  let keys ← s.keys.mapM fun
    | none => some none
    | some k =>
      if k.mark.line < here.line || k.mark.index + 1024 < here.index then
        if k.required then none else some none
      else some (some k)
  return { s with keys := keys }

/-- Give up the innermost place. -/
def removeKey (s : Scanner) : Option Scanner :=
  match s.keys with
  | some k :: rest => if k.required then none else some { s with keys := none :: rest }
  | _ => some s

/-- Keep this place, if a key may begin here. -/
def saveKey (s : Scanner) : Option Scanner :=
  if s.keyAllowed then do
    let required := s.flow = 0 && s.indents.head? = some s.column
    let place : KeyPlace := ⟨s.count, required, s.cursor.mark⟩
    let s ← s.removeKey
    return { s with keys := some place :: s.keys.drop 1 }
  else some s

/-- Close the blocks that are indented more than the given column, or all. -/
def closeBlocks (s : Scanner) (column : Option Nat) : Scanner :=
  if s.flow ≠ 0 then s
  else
    let deeper (indent : Nat) : Bool := match column with
      | none => true
      | some column => column < indent
    let closed := s.indents.takeWhile deeper
    let ends := closed.map fun _ => (⟨.blockEnd, s.cursor.mark⟩ : Placed)
    { s with
      tokens := ends ++ s.tokens
      count := s.count + closed.length
      indents := s.indents.drop closed.length }

/-- Open a block at a column, if it is indented more than the block around it. -/
def openBlock (s : Scanner) (column number : Nat) (token : Token) (mark : Mark) : Scanner :=
  if s.flow ≠ 0 then s
  else
    let opens := match s.indents with
      | [] => true
      | indent :: _ => indent < column
    if opens then { s.insertAt number token mark with indents := column :: s.indents } else s

/-- Open a block here. -/
def openBlockHere (s : Scanner) (token : Token) : Scanner :=
  s.openBlock s.column s.count token s.cursor.mark

/-- Read a token of a fixed length. -/
def indicator (s : Scanner) (token : Token) (length : Nat) : Scanner :=
  { s.emit token s.cursor.mark with cursor := s.cursor.skip length }

/-- Pass over blanks, comments and line breaks. A tab counts as a blank only where it
cannot be taken for indentation. -/
def skipGap (inFlow : Bool) (keyAllowed inComment : Bool) (mark : Mark) :
    List Char → Cursor × Bool
  | [] => (⟨mark, []⟩, keyAllowed)
  | c :: rest =>
    if isBreak c then skipGap inFlow (keyAllowed || !inFlow) false mark.newLine rest
    else if inComment then skipGap inFlow keyAllowed true (mark.skip 1) rest
    else if c = '\uFEFF' && mark.column = 0 then
      skipGap inFlow keyAllowed false (mark.skip 1) rest
    else if c = ' ' || (c = '\t' && (inFlow || !keyAllowed)) then
      skipGap inFlow keyAllowed false (mark.skip 1) rest
    else if c = '#' then skipGap inFlow keyAllowed true (mark.skip 1) rest
    else (⟨mark, c :: rest⟩, keyAllowed)

def toToken (s : Scanner) : Scanner :=
  let (cursor, keyAllowed) :=
    skipGap (s.flow ≠ 0) s.keyAllowed false s.cursor.mark s.cursor.rest
  { s with cursor := cursor, keyAllowed := keyAllowed }

def streamEnd (s : Scanner) : Option Scanner := do
  let mark := if s.column = 0 then s.cursor.mark else s.cursor.mark.newLine
  let s := { s with cursor := ⟨mark, []⟩ }
  let s ← (s.closeBlocks none).removeKey
  return { s with keyAllowed := false }.emit .streamEnd mark

def directive (s : Scanner) : Option Scanner := do
  let s ← (s.closeBlocks none).removeKey
  let (token, cursor) ← readDirective s.cursor
  return { s.emit token s.cursor.mark with cursor := cursor, keyAllowed := false }

def separator (s : Scanner) (token : Token) : Option Scanner := do
  let s ← (s.closeBlocks none).removeKey
  return { s with keyAllowed := false }.indicator token 3

def flowStart (s : Scanner) (token : Token) : Option Scanner := do
  let s ← s.saveKey
  let s := { s with keys := none :: s.keys, flow := s.flow + 1, keyAllowed := true }
  return s.indicator token 1

def flowEnd (s : Scanner) (token : Token) : Option Scanner := do
  let s ← s.removeKey
  let s := if s.flow = 0 then s else { s with keys := s.keys.drop 1, flow := s.flow - 1 }
  return { s with keyAllowed := false }.indicator token 1

def flowEntry (s : Scanner) : Option Scanner := do
  let s ← s.removeKey
  return { s with keyAllowed := true }.indicator .flowEntry 1

def blockEntry (s : Scanner) : Option Scanner := do
  if s.flow = 0 && !s.keyAllowed then none
  let s ← (s.openBlockHere .blockSequenceStart).removeKey
  return { s with keyAllowed := true }.indicator .blockEntry 1

def key (s : Scanner) : Option Scanner := do
  if s.flow = 0 && !s.keyAllowed then none
  let s ← (s.openBlockHere .blockMappingStart).removeKey
  return { s with keyAllowed := s.flow = 0 }.indicator .key 1

def value (s : Scanner) : Option Scanner :=
  match s.keys with
  | some k :: rest =>
    let s := { s with keys := none :: rest, keyAllowed := false }
    let s := s.insertAt k.number .key k.mark
    let s := s.openBlock k.mark.column k.number .blockMappingStart k.mark
    some (s.indicator .value 1)
  | _ => do
    if s.flow = 0 && !s.keyAllowed then none
    let s := s.openBlockHere .blockMappingStart
    return { s with keyAllowed := s.flow = 0 }.indicator .value 1

/-- A token that may begin a key, and behind which none may begin. -/
def property (s : Scanner) (read : Cursor → Option (Token × Cursor)) : Option Scanner := do
  let s ← s.saveKey
  let (token, cursor) ← read s.cursor
  return { s.emit token s.cursor.mark with cursor := cursor, keyAllowed := false }

def blockScalar (s : Scanner) (literal : Bool) : Option Scanner := do
  let s ← s.removeKey
  let (text, cursor) ← readBlock literal s.indents.head? s.cursor
  return { s.emit (.scalar text .quoted) s.cursor.mark with cursor := cursor, keyAllowed := true }

def plainScalar (s : Scanner) : Option Scanner := do
  let s ← s.saveKey
  let indent := (s.indents.head?.map (· + 1)).getD 0
  let ((text, broken), cursor) ←
    readPlain (s.flow ≠ 0) indent false .empty s.cursor.mark s.cursor.rest
  return { s.emit (.scalar text .plain) s.cursor.mark with cursor := cursor, keyAllowed := broken }

def readQuoted (read : Folding → Mark → List Char → Option (String × Cursor)) (c : Cursor) :
    Option (Token × Cursor) := do
  let (text, c) ← read .empty (c.mark.skip 1) (c.rest.drop 1)
  return (.scalar text .quoted, c)

/-- Characters that can begin no plain scalar by themselves. -/
def isIndicator (c : Char) : Bool := "-?:,[]\x7b\x7d#&*!|>'\"%@`".toList.contains c

/-- Does a plain scalar begin with these characters? -/
def beginsPlain (inFlow : Bool) : List Char → Bool
  | [] => false
  | c :: rest =>
    !(isBlank c || isBreak c || isIndicator c) ||
      (c = '-' && !(rest.head?.map isBlank).getD false) ||
      (!inFlow && (c = '?' || c = ':') && !atGap rest)

/-- Read the token that begins here. -/
def token (s : Scanner) : Option Scanner :=
  let inFlow : Bool := s.flow ≠ 0
  match s.cursor.rest with
  | [] => s.streamEnd
  | c :: rest =>
    if s.column = 0 && c = '%' then s.directive
    else if s.column = 0 && atSeparator (c :: rest) then
      s.separator (if c = '-' then .documentStart else .documentEnd)
    else if c = '[' then s.flowStart .flowSequenceStart
    else if c = '{' then s.flowStart .flowMappingStart
    else if c = ']' then s.flowEnd .flowSequenceEnd
    else if c = '}' then s.flowEnd .flowMappingEnd
    else if c = ',' then s.flowEntry
    else if c = '-' && atGap rest then s.blockEntry
    else if c = '?' && (inFlow || atGap rest) then s.key
    else if c = ':' && (inFlow || atGap rest) then s.value
    else if c = '*' then
      s.property fun x => (readName x).map fun (name, x) => (.alias name, x)
    else if c = '&' then
      s.property fun x => (readName x).map fun (name, x) => (.anchor name, x)
    else if c = '!' then
      s.property fun x => (readTag inFlow x).map fun (tag, x) => (.tag tag.1 tag.2, x)
    else if c = '|' && !inFlow then s.blockScalar true
    else if c = '>' && !inFlow then s.blockScalar false
    else if c = '\'' then s.property (readQuoted readSingleQuoted)
    else if c = '"' then s.property (readQuoted readDoubleQuoted)
    else if beginsPlain inFlow (c :: rest) then s.plainScalar
    else none

/-- Read the next token. -/
def next (s : Scanner) : Option Scanner := do
  let s ← s.toToken.dropStaleKeys
  (s.closeBlocks (some s.column)).token

/-- The tokens whose meaning is decided, in their order. -/
def decided (s : Scanner) : List Placed :=
  let number := s.keys.foldl (fun n k => match k with
    | none => n
    | some k => min n k.number) s.count
  s.tokens.reverse.take number

/-- Read tokens up to the end of the text or a fault. Every token but the last takes a
character, so the length of the text is fuel enough. -/
def run : (fuel : Nat) → Scanner → List Placed
  | 0, s => s.decided
  | fuel + 1, s =>
    match s.dropStaleKeys with
    | none => s.decided
    | some s =>
      match s.next with
      | none => s.decided
      | some s =>
        match s.tokens with
        | ⟨.streamEnd, _⟩ :: _ => s.tokens.reverse
        | _ => run fuel s

end Scanner

/-- The tokens of a text up to its end or to a fault; they end with the end of the
stream exactly if there is no fault. -/
def scan (text : String) : List Placed :=
  if text.toList.all isAdmissible then
    let chars := unifyBreaks text.toList
    (Scanner.ofText chars).run (chars.length + 1)
  else []

end Converge.Yaml
