/-!
# Base64

Octets in the standard alphabet, three octets to four characters, the last group
padded with equals signs; and the reading of such text.
-/

namespace Converge.Text.Base64

/-- The standard alphabet. -/
def alphabet : List Char :=
  "ABCDEFGHIJKLMNOPQRSTUVWXYZabcdefghijklmnopqrstuvwxyz0123456789+/".toList

/-- The character of a sextet. -/
def symbol (n : Nat) : Char := alphabet.getD n '='

/-- The sextet of a character. -/
def sextet? (c : Char) : Option Nat := alphabet.findIdx? (· == c)

/-- The text of the octets. -/
def encode : List UInt8 → List Char
  | [] => []
  | [a] => [symbol (a.toNat / 4), symbol (a.toNat % 4 * 16), '=', '=']
  | [a, b] =>
    [symbol (a.toNat / 4), symbol (a.toNat % 4 * 16 + b.toNat / 16), symbol (b.toNat % 16 * 4), '=']
  | a :: b :: c :: rest =>
    symbol (a.toNat / 4) :: symbol (a.toNat % 4 * 16 + b.toNat / 16) ::
      symbol (b.toNat % 16 * 4 + c.toNat / 64) :: symbol (c.toNat % 64) :: encode rest

/-- The octets of a padded text; refused are other characters, a broken group and
bits that no octet takes up. -/
def decode : List Char → Option (List UInt8)
  | [] => some []
  | [x, y, '=', '='] => do
    let a ← sextet? x
    let b ← sextet? y
    if b % 16 = 0 then some [UInt8.ofNat (a * 4 + b / 16)] else none
  | [x, y, z, '='] => do
    let a ← sextet? x
    let b ← sextet? y
    let c ← sextet? z
    if c % 4 = 0 then some [UInt8.ofNat (a * 4 + b / 16), UInt8.ofNat (b % 16 * 16 + c / 4)]
    else none
  | x :: y :: z :: w :: rest => do
    let a ← sextet? x
    let b ← sextet? y
    let c ← sextet? z
    let d ← sextet? w
    let more ← decode rest
    some (UInt8.ofNat (a * 4 + b / 16) :: UInt8.ofNat (b % 16 * 16 + c / 4) ::
      UInt8.ofNat (c % 4 * 64 + d) :: more)
  | _ => none

end Converge.Text.Base64
