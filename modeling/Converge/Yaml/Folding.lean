import Converge.Yaml.Lexeme

/-!
# The text of scalars

A scalar may go over several lines. In plain and quoted scalars a single line break
between two words reads as a space, and of several ones the first is dropped; blanks
next to a line break are dropped too. In block scalars the indentation is dropped, and
line breaks are kept or folded.
-/

namespace Converge.Yaml

/-- The text of a plain or quoted scalar so far, and the gap behind its last word.
Lists are in reverse order. -/
structure Folding where
  text : List Char
  /-- Blanks of the gap, if it has no line break. -/
  blanks : List Char
  /-- Does the gap have a line break? -/
  broken : Bool
  /-- The first line break of the gap, unless it was escaped. -/
  firstBreak : Option Char
  moreBreaks : List Char

namespace Folding

def empty : Folding := ⟨[], [], false, none, []⟩

/-- Read a blank in the gap. -/
def blank (f : Folding) (c : Char) : Folding :=
  if f.broken then f else { f with blanks := c :: f.blanks }

/-- Read a line break in the gap. -/
def lineBreak (f : Folding) (c : Char) : Folding :=
  if f.broken then { f with moreBreaks := c :: f.moreBreaks }
  else { f with blanks := [], broken := true, firstBreak := some c }

/-- Join the gap to the text. -/
def join (f : Folding) : Folding :=
  let text :=
    if f.broken then
      match f.firstBreak with
      | some '\n' => if f.moreBreaks.isEmpty then ' ' :: f.text else f.moreBreaks ++ f.text
      | some c => f.moreBreaks ++ c :: f.text
      | none => f.moreBreaks ++ f.text
    else f.blanks ++ f.text
  ⟨text, [], false, none, []⟩

/-- Read a character of a word. -/
def add (f : Folding) (c : Char) : Folding :=
  let f := f.join
  { f with text := c :: f.text }

/-- Read an escaped line break. -/
def escapedBreak (f : Folding) : Folding := { f.join with broken := true }

def result (f : Folding) : String := String.ofList f.text.reverse

end Folding

/-- Does a plain scalar end before these characters? -/
def endsPlain (inFlow inGap : Bool) (indent : Nat) (mark : Mark) : List Char → Bool
  | [] => true
  | c :: rest =>
    (inGap && ((!inFlow && mark.column < indent) || c = '#' ||
      (mark.column = 0 && atSeparator (c :: rest)))) ||
    (c = ':' && atGap rest) || (inFlow && ",[]\x7b\x7d".toList.contains c)

/-- Is this a colon that a flow collection may not hold in a plain scalar? -/
def isStrayColon (inFlow : Bool) : List Char → Bool
  | ':' :: c :: _ => inFlow && ",?[]\x7b\x7d".toList.contains c
  | _ => false

/-- Read a plain scalar whose lines must be indented by `indent`; also tell whether it
ends behind a line break. -/
def readPlain (inFlow : Bool) (indent : Nat) (inGap : Bool) (f : Folding) (mark : Mark) :
    List Char → Option ((String × Bool) × Cursor)
  | [] => some ((f.result, f.broken), ⟨mark, []⟩)
  | c :: rest =>
    if isBlank c then
      if f.broken && mark.column < indent && c = '\t' then none
      else readPlain inFlow indent true (f.blank c) (mark.skip 1) rest
    else if isBreak c then
      readPlain inFlow indent true (f.lineBreak c) mark.newLine rest
    else if isStrayColon inFlow (c :: rest) then none
    else if endsPlain inFlow inGap indent mark (c :: rest) then
      some ((f.result, f.broken), ⟨mark, c :: rest⟩)
    else readPlain inFlow indent false (f.add c) (mark.skip 1) rest

/-- The character that a letter behind a backslash stands for. -/
def escapeCharacter? (c : Char) : Option Char :=
  match c with
  | '0' => some '\x00'
  | 'a' => some '\x07'
  | 'b' => some '\x08'
  | 't' | '\t' => some '\t'
  | 'n' => some '\n'
  | 'v' => some '\x0b'
  | 'f' => some '\x0c'
  | 'r' => some '\r'
  | 'e' => some '\x1b'
  | ' ' => some ' '
  | '"' => some '"'
  | '/' => some '/'
  | '\\' => some '\\'
  | 'N' => some '\u0085'
  | '_' => some '\u00a0'
  | 'L' => some '\u2028'
  | 'P' => some '\u2029'
  | _ => none

/-- The character with a hexadecimal code; surrogates are none. -/
def hexCharacter? (digits : List Char) : Option Char := do
  let values ← digits.mapM hexDigit?
  let n := values.foldl (fun n x => n * 16 + x) 0
  if (0xd800 ≤ n && n ≤ 0xdfff) || 0x10ffff < n then none else some (Char.ofNat n)

/-- Read a double-quoted scalar behind its opening quote. -/
def readDoubleQuoted (f : Folding) (mark : Mark) : List Char → Option (String × Cursor)
  | [] => none
  | c :: rest =>
    if c = '"' then some (f.join.result, ⟨mark.skip 1, rest⟩)
    else if isBlank c then readDoubleQuoted (f.blank c) (mark.skip 1) rest
    else if isBreak c then readDoubleQuoted (f.lineBreak c) mark.newLine rest
    else if mark.column = 0 && atSeparator (c :: rest) then none
    else if c = '\\' then
      match rest with
      | [] => none
      | 'x' :: x₁ :: x₂ :: rest => do
        readDoubleQuoted (f.add (← hexCharacter? [x₁, x₂])) (mark.skip 4) rest
      | 'u' :: x₁ :: x₂ :: x₃ :: x₄ :: rest => do
        readDoubleQuoted (f.add (← hexCharacter? [x₁, x₂, x₃, x₄])) (mark.skip 6) rest
      | 'U' :: x₁ :: x₂ :: x₃ :: x₄ :: x₅ :: x₆ :: x₇ :: x₈ :: rest => do
        readDoubleQuoted (f.add (← hexCharacter? [x₁, x₂, x₃, x₄, x₅, x₆, x₇, x₈]))
          (mark.skip 10) rest
      | e :: rest =>
        if isBreak e then readDoubleQuoted f.escapedBreak (mark.skip 1).newLine rest
        else do readDoubleQuoted (f.add (← escapeCharacter? e)) (mark.skip 2) rest
    else readDoubleQuoted (f.add c) (mark.skip 1) rest

/-- Read a single-quoted scalar behind its opening quote. -/
def readSingleQuoted (f : Folding) (mark : Mark) : List Char → Option (String × Cursor)
  | [] => none
  | '\'' :: '\'' :: rest => readSingleQuoted (f.add '\'') (mark.skip 2) rest
  | c :: rest =>
    if c = '\'' then some (f.join.result, ⟨mark.skip 1, rest⟩)
    else if isBlank c then readSingleQuoted (f.blank c) (mark.skip 1) rest
    else if isBreak c then readSingleQuoted (f.lineBreak c) mark.newLine rest
    else if mark.column = 0 && atSeparator (c :: rest) then none
    else readSingleQuoted (f.add c) (mark.skip 1) rest

/-- What becomes of the line breaks at the end of a block scalar. -/
inductive Chomping where
  | strip
  | clip
  | keep

/-- A block scalar so far. Lists are in reverse order. -/
structure Block where
  literal : Bool
  /-- The indentation of the content; zero until it is known. -/
  indent : Nat
  /-- The deepest indentation of the blank lines before the content. -/
  deepest : Nat
  text : List Char
  /-- The break at the end of the last line of content. -/
  lastBreak : Option Char
  /-- The breaks of the blank lines behind it. -/
  moreBreaks : List Char
  /-- Did the last line of content begin with a blank? -/
  wasMore : Bool

namespace Block

/-- Begin a line of content. In a folded scalar the break before it becomes a space,
or nothing if blank lines follow, unless one of the two lines begins with a blank. -/
def beginLine (b : Block) (c : Char) : Block :=
  let folds := !b.literal && b.lastBreak = some '\n' && !b.wasMore && !isBlank c
  let text :=
    if folds then if b.moreBreaks.isEmpty then ' ' :: b.text else b.text
    else b.lastBreak.toList ++ b.text
  { b with text := b.moreBreaks ++ text, lastBreak := none, moreBreaks := [], wasMore := isBlank c }

/-- Fix the indentation, if it is not known, from the lines seen so far. -/
def settle (b : Block) (outer column : Nat) : Block :=
  if b.indent = 0 then { b with indent := max (max b.deepest column) (max outer 1) } else b

/-- The text of the whole scalar. -/
def result (b : Block) (chomping : Chomping) : String :=
  let text := match chomping with
    | .strip => b.text
    | .clip => b.lastBreak.toList ++ b.text
    | .keep => b.moreBreaks ++ (b.lastBreak.toList ++ b.text)
  String.ofList text.reverse

end Block

/-- Read the lines of a block scalar. `outer` is the least indentation its content may
have, and `inLine` tells whether a line of content has begun. -/
def readBlockLines (outer : Nat) (inLine : Bool) (b : Block) (mark : Mark) :
    List Char → Option (Block × Cursor)
  | [] => some (b, ⟨mark, []⟩)
  | c :: rest =>
    if inLine then
      if isBreak c then
        readBlockLines outer false { b with lastBreak := some c } mark.newLine rest
      else readBlockLines outer true { b with text := c :: b.text } (mark.skip 1) rest
    else
      let inMargin := b.indent = 0 || mark.column < b.indent
      if inMargin && c = ' ' then
        readBlockLines outer false { b with deepest := max b.deepest (mark.column + 1) }
          (mark.skip 1) rest
      else if inMargin && c = '\t' then none
      else if isBreak c then
        readBlockLines outer false { b with moreBreaks := c :: b.moreBreaks } mark.newLine rest
      else
        let b := b.settle outer mark.column
        if mark.column = b.indent then
          let b := b.beginLine c
          readBlockLines outer true { b with text := c :: b.text } (mark.skip 1) rest
        else some (b, ⟨mark, c :: rest⟩)

/-- The header of a block scalar: an indentation and a chomping in either order. -/
def blockHeader : List Char → Option ((Nat × Chomping) × Nat)
  | x :: y :: _ =>
    if x = '+' || x = '-' then
      let chomping := if x = '+' then Chomping.keep else .strip
      if y.isDigit then if y = '0' then none else some ((y.toNat - 48, chomping), 2)
      else some ((0, chomping), 1)
    else if x.isDigit then
      if x = '0' then none
      else if y = '+' then some ((x.toNat - 48, .keep), 2)
      else if y = '-' then some ((x.toNat - 48, .strip), 2)
      else some ((x.toNat - 48, .clip), 1)
    else some ((0, .clip), 0)
  | [x] =>
    if x = '+' then some ((0, .keep), 1)
    else if x = '-' then some ((0, .strip), 1)
    else if x.isDigit then if x = '0' then none else some ((x.toNat - 48, .clip), 1)
    else some ((0, .clip), 0)
  | [] => some ((0, .clip), 0)

/-- Read a block scalar. `parent` is the indentation of the block around it, if there
is one. -/
def readBlock (literal : Bool) (parent : Option Nat) (c : Cursor) : Option (String × Cursor) := do
  let c := c.skip 1
  let ((increment, chomping), length) ← blockHeader c.rest
  let c := ((c.skip length).skipBlanks).skipComment
  if !atLineEnd c.rest then none
  let c := c.skipBreak
  let outer := (parent.map (· + 1)).getD 0
  let indent := if increment = 0 then 0 else (parent.getD 0) + increment
  let (b, c) ← readBlockLines outer false ⟨literal, indent, 0, [], none, [], false⟩ c.mark c.rest
  return (b.result chomping, c)

end Converge.Yaml
