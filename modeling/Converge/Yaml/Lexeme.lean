import Converge.Text.Utf8
import Converge.Yaml.Token

/-!
# Names, tags and directives

How the tokens are read that are no scalars and more than one character long. Each
reader starts at the first character of its token; nothing is read where the text does
not have the form of the token.
-/

namespace Converge.Yaml

/-- Read the name behind `&` or `*`. -/
def readName (c : Cursor) : Option (String × Cursor) :=
  let (name, c) := (c.skip 1).span isWord
  let ended := atGap c.rest || (match c.rest with
    | [] => true
    | x :: _ => "?:,]\x7d%@`".toList.contains x)
  if name.isEmpty || !ended then none else some (String.ofList name, c)

/-- Read a handle: an exclamation mark, and perhaps a word and another mark. In a
directive the second mark must be there, unless there is no word either. -/
def readHandle (inDirective : Bool) (c : Cursor) : Option (List Char × Cursor) :=
  match c.rest with
  | '!' :: _ =>
    let (word, c) := (c.skip 1).span isWord
    match c.rest with
    | '!' :: _ => some ('!' :: word ++ ['!'], c.skip 1)
    | _ => if inDirective && !word.isEmpty then none else some ('!' :: word, c)
  | _ => none

def isUriChar (verbatim : Bool) (x : Char) : Bool :=
  isWord x || ";/?:@&=+$.%!~*'()".toList.contains x || (verbatim && ",[]".toList.contains x)

def hexDigit? (x : Char) : Option Nat :=
  if x.isDigit then some (x.toNat - 48)
  else if 'a' ≤ x ∧ x ≤ 'f' then some (x.toNat - 87)
  else if 'A' ≤ x ∧ x ≤ 'F' then some (x.toNat - 55)
  else none

/-- The octets of the characters of a URI, with escapes resolved. -/
def uriOctets : List Char → Option (List UInt8)
  | [] => some []
  | '%' :: a :: b :: rest => do
    let high ← hexDigit? a
    let low ← hexDigit? b
    return UInt8.ofNat (high * 16 + low) :: (← uriOctets rest)
  | '%' :: _ => none
  | x :: rest => do return Text.Utf8.encode (String.ofList [x]) ++ (← uriOctets rest)

/-- Read a URI behind the part of it that was read already. -/
def readUri (verbatim : Bool) (before : List Char) (c : Cursor) : Option (String × Cursor) := do
  let (chars, c) := c.span (isUriChar verbatim)
  if before.isEmpty && chars.isEmpty then none
  let octets ← uriOctets chars
  let text ← Text.Utf8.decode octets
  return (String.ofList (before.drop 1) ++ text, c)

/-- Read a tag: its handle and its suffix. -/
def readTag (inFlow : Bool) (c : Cursor) : Option ((String × String) × Cursor) := do
  let (tag, c) ← match c.rest with
    | '!' :: '<' :: _ => do
      let (suffix, c) ← readUri true [] (c.skip 2)
      match c.rest with
      | '>' :: _ => some (("", suffix), c.skip 1)
      | _ => none
    | _ => do
      let (handle, c) ← readHandle false c
      if 2 ≤ handle.length && handle.getLast? = some '!' then
        let (suffix, c) ← readUri false [] c
        some ((String.ofList handle, suffix), c)
      else
        let (suffix, c) ← readUri false handle c
        some (if suffix.isEmpty then ("", "!") else ("!", suffix), c)
  if atGap c.rest || (inFlow && c.rest.head? = some ',') then some (tag, c) else none

/-- Read a number of at most nine digits. -/
def readVersionPart (c : Cursor) : Option (Nat × Cursor) :=
  let (digits, c) := c.span Char.isDigit
  if digits.isEmpty || 9 < digits.length then none
  else some (digits.foldl (fun n x => n * 10 + (x.toNat - 48)) 0, c)

/-- Read a directive up to the end of its line. -/
def readDirective (c : Cursor) : Option (Token × Cursor) := do
  let (name, c) := (c.skip 1).span isWord
  if name.isEmpty || !atGap c.rest then none
  let c := c.skipBlanks
  let (token, c) ←
    if String.ofList name = "YAML" then do
      let (major, c) ← readVersionPart c
      match c.rest with
      | '.' :: _ => do
        let (minor, c) ← readVersionPart (c.skip 1)
        some (Token.versionDirective major minor, c)
      | _ => none
    else if String.ofList name = "TAG" then do
      let (handle, c) ← readHandle true c
      if !(c.rest.head?.map isBlank).getD false then none
      let (replacement, c) ← readUri true [] c.skipBlanks
      if !atGap c.rest then none
      some (Token.tagDirective (String.ofList handle) replacement, c)
    else none
  let c := c.skipBlanks.skipComment
  if atLineEnd c.rest then some (token, c.skipBreak) else none

end Converge.Yaml
