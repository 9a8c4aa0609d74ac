/-!
# Reading UTF-8

Octets are read by a machine that knows, between two octets, how many continuation
octets it still waits for and in which range the next one must lie. An octet the
machine refuses ends the sequence begun before it and is read again from between
characters, so each maximal broken sequence counts once.
-/

namespace Converge.Text.Utf8

/-- An unfinished sequence: the code point so far, the number of continuation
octets awaited, and the range of the next one. -/
structure Pending where
  value : Nat
  awaited : Nat
  low : UInt8
  high : UInt8

/-- What a first octet begins. -/
inductive Opening where
  | character (c : Char)
  | sequence (p : Pending)
  | invalid

def opening (b : UInt8) : Opening :=
  if b < 0x80 then .character (Char.ofNat b.toNat)
  else if b < 0xC2 then .invalid
  else if b < 0xE0 then .sequence ⟨b.toNat - 0xC0, 1, 0x80, 0xBF⟩
  else if b < 0xF0 then
    .sequence ⟨b.toNat - 0xE0, 2, if b = 0xE0 then 0xA0 else 0x80, if b = 0xED then 0x9F else 0xBF⟩
  else if b < 0xF5 then
    .sequence ⟨b.toNat - 0xF0, 3, if b = 0xF0 then 0x90 else 0x80, if b = 0xF4 then 0x8F else 0xBF⟩
  else .invalid

/-- A piece of a decoded text. -/
inductive Piece where
  | character (c : Char)
  | broken
deriving DecidableEq

/-- The character of an unbroken piece. -/
def Piece.character? : Piece → Option Char
  | .character c => some c
  | .broken => none

/-- Decode octets, in the middle of a sequence if one is pending. -/
def pieces : Option Pending → List UInt8 → List Piece
  | none, [] => []
  | some _, [] => [Piece.broken]
  | none, b :: rest =>
    match opening b with
    | .character c => Piece.character c :: pieces none rest
    | .sequence p => pieces (some p) rest
    | .invalid => Piece.broken :: pieces none rest
  | some p, b :: rest =>
    if p.low ≤ b && b ≤ p.high then
      let value := p.value * 64 + (b.toNat - 0x80)
      match p.awaited with
      | 0 | 1 => Piece.character (Char.ofNat value) :: pieces none rest
      | n + 2 => pieces (some ⟨value, n + 1, 0x80, 0xBF⟩) rest
    else
      match opening b with
      | .character c => Piece.broken :: Piece.character c :: pieces none rest
      | .sequence q => Piece.broken :: pieces (some q) rest
      | .invalid => Piece.broken :: Piece.broken :: pieces none rest

/-- The text of the octets, if no sequence is broken. -/
def decode (bytes : List UInt8) : Option String :=
  ((pieces none bytes).mapM Piece.character?).map String.ofList

/-- The text of the octets, with a replacement character for each broken sequence. -/
def decodeLossy (bytes : List UInt8) : String :=
  String.ofList ((pieces none bytes).map fun p => p.character?.getD '\uFFFD')

/-- The octets of a text. -/
def encode (s : String) : List UInt8 := s.toUTF8.toList

/-- The number of octets of a list of characters. -/
def size (cs : List Char) : Nat := cs.foldr (fun c n => c.utf8Size + n) 0

end Converge.Text.Utf8
