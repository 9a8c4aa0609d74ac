import Converge.Json.Parser
import Converge.Json.Printer
import Mathlib.Data.Nat.Notation
import Mathlib.Tactic.Linarith

/-!
# Reading written literals

Integers of 64 bits and strings are read back as they were written. Of an integer only that
needs to be known of the text behind it that it does not go on like a number.
-/

namespace Converge.Json

def isNumberChar (c : Char) : Bool :=
  c.isDigit || c = '.' || c = 'e' || c = 'E' || c = '+' || c = '-'

/-- The text does not go on with a number. -/
def EndsNumber (rest : List Char) : Prop := ∀ c ∈ rest.head?, isNumberChar c = false

theorem endsNumber_nil : EndsNumber [] := by
  intro c first
  cases first

theorem endsNumber_cons {c : Char} (other : isNumberChar c = false) (rest : List Char) :
    EndsNumber (c :: rest) := by
  intro d first
  cases first
  exact other

theorem EndsNumber.startsWithDigit {rest : List Char} (ends : EndsNumber rest) :
    startsWithDigit rest = false := by
  cases rest with
  | nil => rfl
  | cons c rest =>
    have other : isNumberChar c = false := ends c rfl
    simp only [isNumberChar, Bool.or_eq_false_iff] at other
    exact other.1.1.1.1.1

theorem toDigits_digits (n : ℕ) : ∀ c ∈ Nat.toDigits 10 n, c.isDigit = true := fun _ inside =>
  Nat.isDigit_of_mem_toDigits (by decide) (by decide) inside

/-- The digits of a number other than zero begin with another digit than zero. -/
theorem toDigits_head_ne_zero {n : ℕ} (positive : n ≠ 0) :
    (Nat.toDigits 10 n).head? ≠ some '0' := by
  induction n using Nat.strong_induction_on with
  | _ n ih =>
    rw [Nat.toDigits_eq_if (by decide)]
    split
    · rename_i small
      intro zero
      rw [List.head?_cons, Option.some.injEq, Nat.digitChar_eq_zero] at zero
      exact positive zero
    · rename_i large
      rw [List.head?_append, Option.or_eq_left_of_isSome]
      · exact ih (n / 10) (by omega) (by omega)
      · rw [List.isSome_head?]
        exact Nat.toDigits_ne_nil

theorem le_ofDigitChars (digits : List Char) (n : ℕ) : n ≤ Nat.ofDigitChars 10 digits n := by
  rw [Nat.ofDigitChars_eq_ofDigitChars_zero]
  have : n ≤ 10 ^ digits.length * n := Nat.le_mul_of_pos_left n (by positivity)
  omega

/-- Digits are read to their end if the number fits. -/
theorem readDigits_append {limit : ℕ} {digits rest : List Char}
    (all : ∀ c ∈ digits, c.isDigit = true) (ends : startsWithDigit rest = false) (n : ℕ)
    (fit : Nat.ofDigitChars 10 digits n ≤ limit) :
    readDigits limit n (digits ++ rest) = (Nat.ofDigitChars 10 digits n, rest) := by
  induction digits generalizing n with
  | nil =>
    cases rest with
    | nil => rfl
    | cons c rest =>
      have other : c.isDigit = false := ends
      simp [readDigits, other]
  | cons c digits ih =>
    obtain ⟨digit, others⟩ := List.forall_mem_cons.mp all
    have next : n * 10 + (c.toNat - 48) = 10 * n + (c.toNat - '0'.toNat) := by
      rw [Nat.mul_comm]
      rfl
    rw [Nat.ofDigitChars_cons, ← next] at fit ⊢
    have small : n * 10 + (c.toNat - 48) ≤ limit := le_trans (le_ofDigitChars digits _) fit
    rw [List.cons_append, readDigits, if_pos (by simp [digit, small])]
    exact ih others _ fit

theorem afterInteger_ends {rest : List Char} (ends : EndsNumber rest) (negative : Bool) (n : ℕ) :
    afterInteger negative n rest = .ok (integer negative n, rest) := by
  unfold afterInteger
  rw [if_neg (by simp [ends.startsWithDigit])]
  split
  · exact absurd (ends '.' rfl) (by decide)
  · exact absurd (ends 'e' rfl) (by decide)
  · exact absurd (ends 'E' rfl) (by decide)
  · rfl

/-- The digits of a number that fits 64 bits are read as this number. -/
theorem number_toDigits {n : ℕ} (fit : n ≤ maxUInt64) {rest : List Char} (ends : EndsNumber rest)
    (negative : Bool) :
    number negative (Nat.toDigits 10 n ++ rest) = .ok (integer negative n, rest) := by
  have digits := toDigits_digits n
  have value : Nat.ofDigitChars 10 (Nat.toDigits 10 n) 0 = n := Nat.ofDigitChars_ten_toDigits
  by_cases zero : n = 0
  · subst zero
    rw [Nat.toDigits_zero, List.singleton_append, number, if_pos rfl,
      if_neg (by simp [ends.startsWithDigit]), afterInteger_ends ends]
  · have head := toDigits_head_ne_zero zero
    cases written : Nat.toDigits 10 n with
    | nil => exact absurd written Nat.toDigits_ne_nil
    | cons c more =>
      rw [written] at digits value head
      obtain ⟨digit, others⟩ := List.forall_mem_cons.mp digits
      rw [Nat.ofDigitChars_cons, Nat.mul_zero, Nat.zero_add] at value
      have first : c ≠ '0' := fun same => head (by rw [same]; rfl)
      have read : readDigits maxUInt64 (c.toNat - 48) (more ++ rest) = (n, rest) := by
        rw [← value]
        exact readDigits_append others ends.startsWithDigit _ (by rw [← value] at fit; exact fit)
      rw [List.cons_append, number, if_neg first, if_pos digit, read]
      exact afterInteger_ends ends negative n

theorem exists_digit (n : ℕ) : ∃ c more, Nat.toDigits 10 n = c :: more ∧ c.isDigit = true := by
  have digits := toDigits_digits n
  cases written : Nat.toDigits 10 n with
  | nil => exact absurd written Nat.toDigits_ne_nil
  | cons c more =>
    rw [written] at digits
    exact ⟨c, more, rfl, digits c List.mem_cons_self⟩

theorem toString_ofNat_toList (n : ℕ) : (toString (Int.ofNat n)).toList = Nat.toDigits 10 n :=
  (congrArg String.toList Nat.toString_eq_ofList_toDigits).trans (String.toList_ofList)

theorem toString_negSucc_toList (n : ℕ) :
    (toString (Int.negSucc n)).toList = '-' :: Nat.toDigits 10 (n + 1) := by
  have written : toString (Int.negSucc n) = "-" ++ toString (n + 1) := rfl
  rw [written, Nat.toString_eq_ofList_toDigits]
  simp

/-- An integer is written with digits, and perhaps a minus sign. -/
theorem mem_toString_int {n : ℤ} {c : Char} (inside : c ∈ (toString n).toList) :
    c.isDigit = true ∨ c = '-' := by
  cases n with
  | ofNat n =>
    rw [toString_ofNat_toList] at inside
    exact Or.inl (toDigits_digits n c inside)
  | negSucc n =>
    rw [toString_negSucc_toList] at inside
    exact (List.mem_cons.mp inside).symm.imp (toDigits_digits (n + 1) c) id

/-- An integer is written with a character of numbers first. -/
theorem exists_numeral (n : ℤ) :
    ∃ c more, (toString n).toList = c :: more ∧ isNumberChar c = true := by
  cases n with
  | ofNat n =>
    obtain ⟨c, more, written, digit⟩ := exists_digit n
    exact ⟨c, more, (toString_ofNat_toList n).trans written, by simp [isNumberChar, digit]⟩
  | negSucc n => exact ⟨'-', _, toString_negSucc_toList n, rfl⟩

theorem numeral_toString (n : ℤ) : ∀ c ∈ (toString n).toList, isNumberChar c = true := by
  intro c inside
  rcases mem_toString_int inside with digit | rfl
  · simp [isNumberChar, digit]
  · rfl

theorem ne_of_isNumberChar {c d : Char} (number : isNumberChar c = true)
    (other : isNumberChar d = false) : c ≠ d := by
  rintro rfl
  rw [number] at other
  cases other

/-- An integer of 64 bits, with or without sign, is read back. -/
theorem scalar_int {n : ℤ} (fit : fits 64 n = true) {rest : List Char} (ends : EndsNumber rest)
    (fuel : ℕ) : scalar fuel ((toString n).toList ++ rest) = .ok (.int n, rest) := by
  have wide : twoTo 64 = 18446744073709551616 := rfl
  have half : twoTo 63 = 9223372036854775808 := rfl
  simp only [fits, fitsSigned, fitsUnsigned, Bool.or_eq_true, Bool.and_eq_true,
    decide_eq_true_eq, wide, Nat.add_one_sub_one, half] at fit
  cases n with
  | ofNat n =>
    obtain ⟨c, more, written, digit⟩ := exists_digit n
    have small : n ≤ maxUInt64 := by
      rw [Int.ofNat_eq_natCast] at fit
      rw [maxUInt64, wide]
      omega
    have read := number_toDigits small ends false
    rw [toString_ofNat_toList, written] at *
    rw [List.cons_append] at read ⊢
    unfold scalar
    split <;> simp_all [integer]
  | negSucc n =>
    have small : n + 1 ≤ maxUInt64 := by
      rw [maxUInt64, wide]
      omega
    have read := number_toDigits small ends true
    rw [toString_negSucc_toList, List.cons_append, scalar, read, integer, if_pos rfl,
      if_neg (by omega)]
    rfl

theorem hexValue?_digitChar {k : ℕ} (small : k < 16) : hexValue? (Nat.digitChar k) = some k := by
  have all : ∀ k < 16, hexValue? (Nat.digitChar k) = some k := by decide
  exact all k small

/-- The escape of a control character without a letter of its own. -/
theorem escaped_control {c : Char} (control : c.toNat < 0x20) (rest : List Char) :
    escaped ('u' :: '0' :: '0' :: Nat.digitChar (c.toNat / 16) ::
      Nat.digitChar (c.toNat % 16) :: rest) = .ok (c, rest) := by
  have code : hexCode? '0' '0' (Nat.digitChar (c.toNat / 16)) (Nat.digitChar (c.toNat % 16)) =
      some c.toNat := by
    have zero : hexValue? '0' = some 0 := rfl
    simp only [hexCode?, zero, hexValue?_digitChar (show c.toNat / 16 < 16 by omega),
      hexValue?_digitChar (show c.toNat % 16 < 16 by omega), Option.bind_eq_bind,
      Option.bind_some, Option.pure_def, Option.some.injEq]
    omega
  have low : ¬(0xDC00 ≤ c.toNat ∧ c.toNat ≤ 0xDFFF) := by omega
  have high : ¬(0xD800 ≤ c.toNat ∧ c.toNat ≤ 0xDBFF) := by omega
  simp only [escaped, hexEscape, code, bind, Except.bind, if_neg low, if_neg high,
    Char.ofNat_toNat, pure, Except.pure]

/-- One character is read from what it is written as. -/
theorem stringBody_escapeChar (c : Char) (fuel : ℕ) (rest : List Char) :
    stringBody (fuel + 1) (escapeChar c ++ rest) =
      (stringBody fuel rest).map fun read => (c :: read.1, read.2) := by
  have step {e : Char} {behind : List Char} (read : escaped behind = .ok (e, rest)) :
      stringBody (fuel + 1) ('\\' :: behind) =
        (stringBody fuel rest).map fun read => (e :: read.1, read.2) := by
    simp only [stringBody, read, bind, Except.bind]
    cases stringBody fuel rest <;> rfl
  unfold escapeChar
  split
  · next same => rw [same]; exact step rfl
  · next quote =>
  split
  · next same => rw [same]; exact step rfl
  · next backslash =>
  split
  · next same => rw [same]; exact step rfl
  split
  · next same => rw [same]; exact step rfl
  split
  · next same => rw [same]; exact step rfl
  split
  · next same => rw [same]; exact step rfl
  split
  · next same => rw [same]; exact step rfl
  split
  · next control => exact step (escaped_control control rest)
  · next plain =>
    rw [List.singleton_append, stringBody, if_neg plain]
    · cases stringBody fuel rest <;> simp [bind, Except.bind, Except.map, pure, Except.pure]
    · exact fun same => quote same
    · exact fun same => backslash same

theorem stringBody_flatMap (s : List Char) {fuel : ℕ} (enough : s.length ≤ fuel)
    (rest : List Char) :
    stringBody fuel (s.flatMap escapeChar ++ '"' :: rest) = .ok (s, rest) := by
  induction s generalizing fuel with
  | nil => cases fuel <;> rfl
  | cons c s ih =>
    cases fuel with
    | zero => simp at enough
    | succ fuel =>
      rw [List.flatMap_cons, List.append_assoc, stringBody_escapeChar,
        ih (Nat.le_of_succ_le_succ enough)]
      rfl

/-- A string is read back behind its opening quote. -/
theorem string_flatMap (s : String) {fuel : ℕ} (enough : s.toList.length ≤ fuel)
    (rest : List Char) :
    string fuel (s.toList.flatMap escapeChar ++ '"' :: rest) = .ok (s, rest) := by
  simp only [string, stringBody_flatMap s.toList enough rest, bind, Except.bind, pure, Except.pure,
    String.ofList_toList]

theorem length_writeString (s : String) : s.toList.length + 2 ≤ (writeString s).length := by
  have each : ∀ cs : List Char, cs.length ≤ (cs.flatMap escapeChar).length := by
    intro cs
    induction cs with
    | nil => exact le_rfl
    | cons c cs ih =>
      have some : 1 ≤ (escapeChar c).length := by
        unfold escapeChar
        repeat' split
        all_goals simp
      rw [List.flatMap_cons, List.length_append, List.length_cons]
      omega
  have body := each s.toList
  rw [writeString, List.length_cons, List.length_append, List.length_singleton]
  omega

end Converge.Json
