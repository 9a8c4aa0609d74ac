import Converge.Json.Number

/-!
# Reading JSON

A text is one value between blanks. Reading stops at the first fault. Arrays and
objects nest at most 127 deep. `read` keeps repeated fields as they stand; `parse`
keeps of them the first place and the last value.
-/

namespace Converge.Json

def isBlankChar (c : Char) : Bool := c = ' ' || c = '\n' || c = '\t' || c = '\r'

def skipBlanks (cs : List Char) : List Char := cs.dropWhile isBlankChar

/-- The value of a hexadecimal digit in either case. -/
def hexValue? (c : Char) : Option Nat :=
  if c.isDigit then some (c.toNat - 48)
  else if 'a' ≤ c ∧ c ≤ 'f' then some (c.toNat - 87)
  else if 'A' ≤ c ∧ c ≤ 'F' then some (c.toNat - 55)
  else none

/-- The number of four hexadecimal digits. -/
def hexCode? (a b c d : Char) : Option Nat := do
  let w ← hexValue? a
  let x ← hexValue? b
  let y ← hexValue? c
  let z ← hexValue? d
  return ((w * 16 + x) * 16 + y) * 16 + z

/-- The fault where four hexadecimal digits should stand. The four octets are passed
over whatever they are. -/
def noHexCode (cs : List Char) : Fault :=
  let size := Text.Utf8.size cs
  if size < 4 then ⟨.unfinishedString, 0⟩ else ⟨.invalidEscape, size - 4⟩

/-- Read four hexadecimal digits. -/
def hexEscape : List Char → Except Fault (Nat × List Char)
  | a :: b :: c :: d :: rest =>
    match hexCode? a b c d with
    | some n => .ok (n, rest)
    | none => .error (noHexCode (a :: b :: c :: d :: rest))
  | cs => .error (noHexCode cs)

/-- Read the second half of a surrogate pair and put the two together. -/
def lowSurrogate (high : Nat) : List Char → Except Fault (Char × List Char)
  | [] => .error (.at [] .unfinishedString)
  | '\\' :: [] => .error (.at [] .unfinishedString)
  | '\\' :: 'u' :: rest => do
    let (low, rest) ← hexEscape rest
    if 0xDC00 ≤ low ∧ low ≤ 0xDFFF then
      return (Char.ofNat ((high - 0xD800) * 1024 + (low - 0xDC00) + 0x10000), rest)
    else throw (.at rest .loneSurrogate)
  | '\\' :: rest => .error (.past rest .unexpectedEndOfHexEscape)
  | rest => .error (.past rest .unexpectedEndOfHexEscape)

/-- Read what stands behind a backslash. -/
def escaped : List Char → Except Fault (Char × List Char)
  | [] => .error (.at [] .unfinishedString)
  | '"' :: rest => .ok ('"', rest)
  | '\\' :: rest => .ok ('\\', rest)
  | '/' :: rest => .ok ('/', rest)
  | 'b' :: rest => .ok ('\x08', rest)
  | 'f' :: rest => .ok ('\x0c', rest)
  | 'n' :: rest => .ok ('\n', rest)
  | 'r' :: rest => .ok ('\r', rest)
  | 't' :: rest => .ok ('\t', rest)
  | 'u' :: rest => do
    let (n, rest) ← hexEscape rest
    if 0xDC00 ≤ n ∧ n ≤ 0xDFFF then throw (.at rest .loneSurrogate)
    else if 0xD800 ≤ n ∧ n ≤ 0xDBFF then lowSurrogate n rest
    else return (Char.ofNat n, rest)
  | c :: rest => .error (.past (c :: rest) .invalidEscape)

/-- Read the characters of a string up to its closing quote. Every character takes at
least one of the text, so as much fuel as there are characters is enough. -/
def stringBody : (fuel : Nat) → List Char → Except Fault (List Char × List Char)
  | _, [] => .error (.at [] .unfinishedString)
  | _, '"' :: rest => .ok ([], rest)
  | 0, cs => .error (.at cs .unfinishedString)
  | fuel + 1, '\\' :: rest => do
    let (c, rest) ← escaped rest
    let (more, rest) ← stringBody fuel rest
    return (c :: more, rest)
  | fuel + 1, c :: rest =>
    if c.toNat < 0x20 then .error (.past (c :: rest) .controlCharacter)
    else do
      let (more, rest) ← stringBody fuel rest
      return (c :: more, rest)

/-- Read a string behind its opening quote. -/
def string (fuel : Nat) (cs : List Char) : Except Fault (String × List Char) := do
  let (body, rest) ← stringBody fuel cs
  return (String.ofList body, rest)

/-- Read the characters of a word that has to stand here. -/
def word (result : Json) : List Char → List Char → Except Fault (Json × List Char)
  | [], rest => .ok (result, rest)
  | _ :: _, [] => .error (.at [] .unfinishedValue)
  | e :: expected, c :: rest =>
    if c = e then word result expected rest else .error (.past (c :: rest) .expectedWord)

/-- Read a value that is neither array nor object, from its first character on. -/
def scalar (fuel : Nat) : List Char → Except Fault (Json × List Char)
  | [] => .error (.at [] .unfinishedValue)
  | 'n' :: rest => word .null ['u', 'l', 'l'] rest
  | 't' :: rest => word (.bool true) ['r', 'u', 'e'] rest
  | 'f' :: rest => word (.bool false) ['a', 'l', 's', 'e'] rest
  | '"' :: rest => do
    let (s, rest) ← string fuel rest
    return (.str s, rest)
  | '-' :: rest => number true rest
  | c :: rest =>
    if c.isDigit then number false (c :: rest) else .error (.past (c :: rest) .expectedValue)

/-- Read a field's name behind its opening quote, and the colon. -/
def fieldName (fuel : Nat) (cs : List Char) : Except Fault (String × List Char) := do
  let (name, rest) ← string fuel cs
  match skipBlanks rest with
  | ':' :: rest => return (name, rest)
  | [] => throw (.at [] .unfinishedObject)
  | rest => throw (.past rest .expectedColon)

mutual
/-- Read a value. `depth` levels may still be opened. Every two steps take at least
one character, so twice the length of the text is fuel enough. -/
def value : (fuel : Nat) → (depth : Nat) → List Char → Except Fault (Json × List Char)
  | 0, _, cs => .error (.at cs .unfinishedValue)
  | fuel + 1, depth, cs =>
    match skipBlanks cs with
    | '[' :: rest =>
      match depth with
      | 0 => .error (.past ('[' :: rest) .tooDeep)
      | depth + 1 =>
        match skipBlanks rest with
        | ']' :: rest => .ok (.arr [], rest)
        | [] => .error (.at [] .unfinishedList)
        | rest => do
          let (v, rest) ← value fuel depth rest
          let (more, rest) ← items fuel depth rest
          return (.arr (v :: more), rest)
    | '{' :: rest =>
      match depth with
      | 0 => .error (.past ('{' :: rest) .tooDeep)
      | depth + 1 =>
        match skipBlanks rest with
        | '}' :: rest => .ok (.obj [], rest)
        | '"' :: rest => do
          let (name, rest) ← fieldName fuel rest
          let (v, rest) ← value fuel depth rest
          let (more, rest) ← fields fuel depth rest
          return (.obj ((name, v) :: more), rest)
        | [] => .error (.at [] .unfinishedObject)
        | rest => .error (.past rest .keyMustBeString)
    | cs => scalar fuel cs

/-- Read the items behind an item, up to the closing bracket. -/
def items : (fuel : Nat) → (depth : Nat) → List Char → Except Fault (List Json × List Char)
  | 0, _, cs => .error (.at cs .unfinishedList)
  | fuel + 1, depth, cs =>
    match skipBlanks cs with
    | ']' :: rest => .ok ([], rest)
    | ',' :: rest =>
      match skipBlanks rest with
      | ']' :: rest => .error (.past (']' :: rest) .trailingComma)
      | [] => .error (.at [] .unfinishedValue)
      | rest => do
        let (v, rest) ← value fuel depth rest
        let (more, rest) ← items fuel depth rest
        return (v :: more, rest)
    | [] => .error (.at [] .unfinishedList)
    | rest => .error (.past rest .expectedListCommaOrEnd)

/-- Read the fields behind a field, up to the closing brace. -/
def fields : (fuel : Nat) → (depth : Nat) → List Char →
    Except Fault (List (String × Json) × List Char)
  | 0, _, cs => .error (.at cs .unfinishedObject)
  | fuel + 1, depth, cs =>
    match skipBlanks cs with
    | '}' :: rest => .ok ([], rest)
    | ',' :: rest =>
      match skipBlanks rest with
      | '"' :: rest => do
        let (name, rest) ← fieldName fuel rest
        let (v, rest) ← value fuel depth rest
        let (more, rest) ← fields fuel depth rest
        return ((name, v) :: more, rest)
      | '}' :: rest => .error (.past ('}' :: rest) .trailingComma)
      | [] => .error (.at [] .unfinishedValue)
      | rest => .error (.past rest .keyMustBeString)
    | [] => .error (.at [] .unfinishedObject)
    | rest => .error (.past rest .expectedObjectCommaOrEnd)
end

/-- How deep arrays and objects may nest. -/
def maxDepth : Nat := 127

/-- The value of a whole text, repeated fields kept. -/
def document (cs : List Char) : Except Fault Json := do
  let (v, rest) ← value (2 * cs.length + 2) maxDepth cs
  match skipBlanks rest with
  | [] => return v
  | rest => throw (.past rest .trailingCharacters)

/-- The value of a text, repeated fields kept. -/
def read (text : String) : Except SyntaxError Json :=
  (document text.toList).mapError (·.locate text)

/-- The value of a text. -/
def parse (text : String) : Except SyntaxError Json := (read text).map normalize

end Converge.Json
