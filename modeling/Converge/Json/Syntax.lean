import Converge.Text.Utf8

/-!
# Faults in JSON text

What can be wrong with a text, in which words that is said, and where: a fault is
placed by the number of octets behind it, from which line and column follow. Lines
count from one, columns count octets.
-/

namespace Converge.Json

inductive Problem where
  | unfinishedValue
  | unfinishedList
  | unfinishedObject
  | unfinishedString
  | expectedValue
  | expectedWord
  | expectedColon
  | expectedListCommaOrEnd
  | expectedObjectCommaOrEnd
  | trailingComma
  | trailingCharacters
  | keyMustBeString
  | invalidNumber
  | numberOutOfRange
  | invalidEscape
  | controlCharacter
  | unexpectedEndOfHexEscape
  | loneSurrogate
  | tooDeep
deriving DecidableEq, Repr

def Problem.message : Problem → String
  | .unfinishedValue => "EOF while parsing a value"
  | .unfinishedList => "EOF while parsing a list"
  | .unfinishedObject => "EOF while parsing an object"
  | .unfinishedString => "EOF while parsing a string"
  | .expectedValue => "expected value"
  | .expectedWord => "expected ident"
  | .expectedColon => "expected `:`"
  | .expectedListCommaOrEnd => "expected `,` or `]`"
  | .expectedObjectCommaOrEnd => "expected `,` or `\x7d`"
  | .trailingComma => "trailing comma"
  | .trailingCharacters => "trailing characters"
  | .keyMustBeString => "key must be a string"
  | .invalidNumber => "invalid number"
  | .numberOutOfRange => "number out of range"
  | .invalidEscape => "invalid escape"
  | .controlCharacter => "control character (\\u0000-\\u001F) found while parsing a string"
  | .unexpectedEndOfHexEscape => "unexpected end of hex escape"
  | .loneSurrogate => "lone leading surrogate in hex escape"
  | .tooDeep => "recursion limit exceeded"

/-- A problem and the number of octets behind its place. -/
structure Fault where
  problem : Problem
  left : Nat
deriving DecidableEq, Repr

/-- A fault just before the rest of the text. -/
def Fault.at (rest : List Char) (problem : Problem) : Fault := ⟨problem, Text.Utf8.size rest⟩

/-- A fault one octet into the rest of the text. -/
def Fault.past (rest : List Char) (problem : Problem) : Fault := ⟨problem, Text.Utf8.size rest - 1⟩

/-- A problem with its place. -/
structure SyntaxError where
  problem : Problem
  line : Nat
  column : Nat
deriving DecidableEq, Repr

def SyntaxError.message (e : SyntaxError) : String :=
  e.problem.message ++ " at line " ++ toString e.line ++ " column " ++ toString e.column

/-- Line and column behind some octets. -/
def position (octets : List UInt8) : Nat × Nat :=
  octets.foldl (fun (p : Nat × Nat) b => if b = 10 then (p.1 + 1, 0) else (p.1, p.2 + 1)) (1, 0)

/-- Place a fault in the text in which it was found. -/
def Fault.locate (text : String) (f : Fault) : SyntaxError :=
  let octets := Text.Utf8.encode text
  let (line, column) := position (octets.take (octets.length - f.left))
  ⟨f.problem, line, column⟩

end Converge.Json
