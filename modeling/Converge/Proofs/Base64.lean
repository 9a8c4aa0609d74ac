import Converge.Text.Base64

/-!
# Base64 is read back

A group of octets goes into sextets and comes out of them again, for a group of three as for what
is left behind the last one. So the octets of a text are found in its base64, to the last bit.
-/

namespace Converge.Text.Base64

theorem sextet?_symbol {n : Nat} (sextet : n < 64) : sextet? (symbol n) = some n := by
  have table : ∀ n < 64, sextet? (symbol n) = some n := by decide
  exact table n sextet

/-- The padding is no symbol. -/
theorem symbol_ne_pad {n : Nat} (sextet : n < 64) : symbol n ≠ '=' := by
  intro padded
  have read := sextet?_symbol sextet
  rw [padded, show sextet? '=' = none by decide] at read
  cases read

section Group

variable {x y z w : Char} {a b c d : Nat} {rest : List Char}

theorem decode_one (first : sextet? x = some a) (second : sextet? y = some b)
    (full : b % 16 = 0) : decode [x, y, '=', '='] = some [UInt8.ofNat (a * 4 + b / 16)] := by
  simp only [decode, first, second, full, bind, Option.bind, if_true]

theorem decode_two (first : sextet? x = some a) (second : sextet? y = some b)
    (third : sextet? z = some c) (symbolic : z ≠ '=') (full : c % 4 = 0) :
    decode [x, y, z, '='] =
      some [UInt8.ofNat (a * 4 + b / 16), UInt8.ofNat (b % 16 * 16 + c / 4)] := by
  simp only [decode, first, second, third, full, bind, Option.bind, if_true]

theorem decode_three (first : sextet? x = some a) (second : sextet? y = some b)
    (third : sextet? z = some c) (fourth : sextet? w = some d) (symbolic : w ≠ '=') :
    decode (x :: y :: z :: w :: rest) = (decode rest).map fun more =>
      UInt8.ofNat (a * 4 + b / 16) :: UInt8.ofNat (b % 16 * 16 + c / 4) ::
        UInt8.ofNat (c % 4 * 64 + d) :: more := by
  have step : decode (x :: y :: z :: w :: rest) = (do
      let a ← sextet? x
      let b ← sextet? y
      let c ← sextet? z
      let d ← sextet? w
      let more ← decode rest
      some (UInt8.ofNat (a * 4 + b / 16) :: UInt8.ofNat (b % 16 * 16 + c / 4) ::
        UInt8.ofNat (c % 4 * 64 + d) :: more)) := by
    rw [decode]
    · simp [symbolic]
    · simp [symbolic]
  rw [step, first, second, third, fourth]
  cases decode rest <;> rfl

end Group

/-- The octets are read back from their base64. -/
theorem decode_encode (octets : List UInt8) : decode (encode octets) = some octets := by
  have octet {n : Nat} {a : UInt8} (same : n = a.toNat) : UInt8.ofNat n = a := by
    rw [same, UInt8.ofNat_toNat]
  induction octets using encode.induct with
  | case1 => rfl
  | case2 a =>
    have bound := a.toNat_lt
    rw [encode, decode_one (sextet?_symbol (by omega)) (sextet?_symbol (by omega)) (by omega),
      octet (a := a) (by omega)]
  | case3 a b =>
    have boundA := a.toNat_lt
    have boundB := b.toNat_lt
    rw [encode, decode_two (sextet?_symbol (by omega)) (sextet?_symbol (by omega))
      (sextet?_symbol (by omega)) (symbol_ne_pad (by omega)) (by omega),
      octet (a := a) (by omega), octet (a := b) (by omega)]
  | case4 a b c rest ih =>
    have boundA := a.toNat_lt
    have boundB := b.toNat_lt
    have boundC := c.toNat_lt
    rw [encode, decode_three (sextet?_symbol (by omega)) (sextet?_symbol (by omega))
      (sextet?_symbol (by omega)) (sextet?_symbol (by omega)) (symbol_ne_pad (by omega)), ih,
      octet (a := a) (by omega), octet (a := b) (by omega), octet (a := c) (by omega)]
    rfl

end Converge.Text.Base64
