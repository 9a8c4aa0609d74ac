/-!
# Characters of a YAML text

Which characters a text may hold, which of them are blanks and line breaks, and the
place of a character. A carriage return, with or without a line feed, and a next-line
character break a line like a line feed and are made one before anything else; the
separators U+2028 and U+2029 break lines too, but are kept.
-/

namespace Converge.Yaml

/-- May the character stand in a text? -/
def isAdmissible (c : Char) : Bool :=
  let n := c.toNat
  n = 0x09 || n = 0x0a || n = 0x0d || (0x20 ≤ n && n ≤ 0x7e) || n = 0x85 ||
    (0xa0 ≤ n && n ≤ 0xd7ff) || (0xe000 ≤ n && n ≤ 0xfffd) || 0x10000 ≤ n

/-- Make every carriage return and next-line character a line feed. -/
def unifyBreaks : List Char → List Char
  | [] => []
  | '\r' :: '\n' :: rest => '\n' :: unifyBreaks rest
  | c :: rest => (if c = '\r' || c = '\u0085' then '\n' else c) :: unifyBreaks rest

def isBlank (c : Char) : Bool := c = ' ' || c = '\t'

def isBreak (c : Char) : Bool := c = '\n' || c = '\u2028' || c = '\u2029'

/-- A letter, a digit, an underscore or a hyphen. -/
def isWord (c : Char) : Bool := c.isAlphanum || c = '_' || c = '-'

/-- Does the text end here, or go on with a line break? -/
def atLineEnd : List Char → Bool
  | [] => true
  | c :: _ => isBreak c

/-- Does the text end here, or go on with a blank or a line break? -/
def atGap : List Char → Bool
  | [] => true
  | c :: _ => isBlank c || isBreak c

/-- Does the text go on with three hyphens or three dots and a gap? At the start of a
line these separate documents. -/
def atSeparator : List Char → Bool
  | '-' :: '-' :: '-' :: rest => atGap rest
  | '.' :: '.' :: '.' :: rest => atGap rest
  | _ => false

/-- A place in a text, counted in characters from zero. -/
structure Mark where
  index : Nat
  line : Nat
  column : Nat
deriving DecidableEq, Repr

namespace Mark

def start : Mark := ⟨0, 0, 0⟩

/-- The place behind a number of characters of the same line. -/
def skip (m : Mark) (n : Nat) : Mark := ⟨m.index + n, m.line, m.column + n⟩

/-- The place behind a line break. -/
def newLine (m : Mark) : Mark := ⟨m.index + 1, m.line + 1, 0⟩

/-- Is this the first character of the text? -/
def isOrigin (m : Mark) : Bool := m.line = 0 && m.column = 0

end Mark

/-- A place in a text with what stands behind it. -/
structure Cursor where
  mark : Mark
  rest : List Char

/-- Pass over a number of characters that break no line. -/
def Cursor.skip (c : Cursor) (n : Nat) : Cursor := ⟨c.mark.skip n, c.rest.drop n⟩

/-- Read the characters of one class that stand here; none of them breaks a line. -/
def Cursor.span (c : Cursor) (p : Char → Bool) : List Char × Cursor :=
  let taken := c.rest.takeWhile p
  (taken, c.skip taken.length)

/-- Pass over blanks. -/
def Cursor.skipBlanks (c : Cursor) : Cursor := (c.span isBlank).2

/-- Pass over a comment, if one begins here. -/
def Cursor.skipComment (c : Cursor) : Cursor :=
  match c.rest with
  | '#' :: _ => (c.span fun x => !isBreak x).2
  | _ => c

/-- Pass over a line break, if one stands here. -/
def Cursor.skipBreak (c : Cursor) : Cursor :=
  match c.rest with
  | x :: rest => if isBreak x then ⟨c.mark.newLine, rest⟩ else c
  | [] => c

end Converge.Yaml
