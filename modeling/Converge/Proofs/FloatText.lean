import Converge.Decimal.Layout
import Converge.Proofs.Literals
import Converge.Proofs.ShortestDecimal
import Converge.Text.Find

/-!
# What the text of a floating-point number says

In both notations the text of a number says the shortest decimal. That lies in the gap around the
number, so numbers with the same text are the same number. The text is no integer literal: it has
a point or an exponent.
-/

namespace Converge

theorem Text.cutAt_append {separator : Char} {before : List Char} (free : separator ∉ before)
    (after : List Char) : cutAt separator (before ++ separator :: after) = some (before, after) := by
  induction before with
  | nil => exact if_pos rfl
  | cons c rest ih =>
    rw [List.mem_cons, not_or] at free
    rw [List.cons_append, cutAt, if_neg (Ne.symm free.1), ih free.2]
    rfl

namespace Decimal

open Binary64 Json

def positionalValue (cs : List Char) : ℚ :=
  match Text.cutAt '.' cs with
  | none => Nat.ofDigitChars 10 cs 0
  | some (whole, places) => Nat.ofDigitChars 10 (whole ++ places) 0 / 10 ^ places.length

def signedValue : List Char → ℤ
  | '-' :: digits => -Nat.ofDigitChars 10 digits 0
  | '+' :: digits => Nat.ofDigitChars 10 digits 0
  | digits => Nat.ofDigitChars 10 digits 0

/-- What a number without sign says, perhaps with an exponent. -/
def textValue (cs : List Char) : ℚ :=
  match Text.cutAt 'e' cs with
  | none => positionalValue cs
  | some (mantissa, exponent) => positionalValue mantissa * 10 ^ signedValue exponent

/-- A text that says a number: it begins with a digit, goes on with characters of numbers, and
has a point or an exponent. -/
structure Says (cs : List Char) (v : ℚ) : Prop where
  value : textValue cs = v
  begins : ∃ c more, cs = c :: more ∧ c.isDigit = true
  numeral : ∀ c ∈ cs, isNumberChar c = true
  marked : '.' ∈ cs ∨ 'e' ∈ cs

section Digits

variable {digits : List Char} (all : ∀ c ∈ digits, c.isDigit = true)

include all

theorem not_mem_of_digits {c : Char} (other : c.isDigit = false) : c ∉ digits := by
  intro inside
  rw [all c inside] at other
  cases other

theorem numeral_of_digits : ∀ c ∈ digits, isNumberChar c = true := by
  intro c inside
  simp [isNumberChar, all c inside]

theorem begins_of_digits (some : digits ≠ []) (rest : List Char) :
    ∃ c more, digits ++ rest = c :: more ∧ c.isDigit = true := by
  cases digits with
  | nil => exact absurd rfl some
  | cons c more => exact ⟨c, more ++ rest, rfl, all c List.mem_cons_self⟩

end Digits

theorem zeros_digits (n : ℕ) : ∀ c ∈ List.replicate n '0', c.isDigit = true := by
  intro c inside
  rw [List.eq_of_mem_replicate inside]
  rfl

theorem append_digits {first second : List Char} (all : ∀ c ∈ first, c.isDigit = true)
    (others : ∀ c ∈ second, c.isDigit = true) : ∀ c ∈ first ++ second, c.isDigit = true :=
  List.forall_mem_append.mpr ⟨all, others⟩

section Point

variable {whole places : List Char} (all : ∀ c ∈ whole, c.isDigit = true)

include all

theorem positionalValue_digits : positionalValue whole = Nat.ofDigitChars 10 whole 0 := by
  rw [positionalValue, Text.cutAt_eq_none_iff.mpr (not_mem_of_digits all rfl)]

theorem positionalValue_point (places : List Char) : positionalValue (whole ++ '.' :: places) =
    Nat.ofDigitChars 10 (whole ++ places) 0 / 10 ^ places.length := by
  rw [positionalValue, Text.cutAt_append (not_mem_of_digits all rfl)]

/-- Digits with a point among them. -/
theorem says_positional (some : whole ≠ []) (others : ∀ c ∈ places, c.isDigit = true) :
    Says (whole ++ '.' :: places)
      (Nat.ofDigitChars 10 (whole ++ places) 0 / 10 ^ places.length) where
  value := by
    have plain : 'e' ∉ whole ++ '.' :: places := by
      simp [not_mem_of_digits all (c := 'e') rfl, not_mem_of_digits others (c := 'e') rfl]
    rw [textValue, Text.cutAt_eq_none_iff.mpr plain]
    exact positionalValue_point all places
  begins := begins_of_digits all some _
  numeral := by
    refine List.forall_mem_append.mpr ⟨numeral_of_digits all, ?_⟩
    exact List.forall_mem_cons.mpr ⟨rfl, numeral_of_digits others⟩
  marked := Or.inl (by simp)

end Point

theorem ofDigitChars_zeros (n : ℕ) (digits : List Char) :
    Nat.ofDigitChars 10 (List.replicate n '0' ++ digits) 0 = Nat.ofDigitChars 10 digits 0 := by
  rw [Nat.ofDigitChars_append, Nat.ofDigitChars_replicate_zero, Nat.mul_zero]

theorem ofDigitChars_append_zeros (digits : List Char) (n : ℕ) :
    Nat.ofDigitChars 10 (digits ++ List.replicate n '0') 0 =
      10 ^ n * Nat.ofDigitChars 10 digits 0 := by
  rw [Nat.ofDigitChars_append, Nat.ofDigitChars_replicate_zero]

section Written

variable (n : ℕ) (exponent : ℤ)

theorem toList_toString : (toString n).toList = Nat.toDigits 10 n := by
  rw [Nat.toString_eq_ofList_toDigits, String.toList_ofList]

theorem length_toString : (toString n).length = (Nat.toDigits 10 n).length := by
  rw [← String.length_toList, toList_toString]

/-- Zeros behind the digits, and one more behind the point. -/
theorem says_point_behind (zeros : ℕ) :
    Says (Nat.toDigits 10 n ++ List.replicate zeros '0' ++ '.' :: List.replicate 1 '0')
      (n * 10 ^ zeros) := by
  have read : Nat.ofDigitChars 10 (Nat.toDigits 10 n) 0 = n := Nat.ofDigitChars_ten_toDigits
  have text := says_positional (append_digits (toDigits_digits n) (zeros_digits zeros))
    (by simp [Nat.toDigits_ne_nil]) (zeros_digits 1)
  rw [ofDigitChars_append_zeros, ofDigitChars_append_zeros, read, List.length_replicate] at text
  have value : ((10 ^ 1 * (10 ^ zeros * n) : ℕ) : ℚ) / 10 ^ 1 = n * 10 ^ zeros := by
    push_cast
    ring
  rwa [value] at text

/-- The point among the digits. -/
theorem says_point_inside {places : ℕ} (inside : places < (Nat.toDigits 10 n).length) :
    Says ((Nat.toDigits 10 n).take ((Nat.toDigits 10 n).length - places) ++
      '.' :: (Nat.toDigits 10 n).drop ((Nat.toDigits 10 n).length - places))
      (n / 10 ^ places) := by
  have digits := toDigits_digits n
  have read : Nat.ofDigitChars 10 (Nat.toDigits 10 n) 0 = n := Nat.ofDigitChars_ten_toDigits
  have front : (Nat.toDigits 10 n).take ((Nat.toDigits 10 n).length - places) ≠ [] := by
    rw [Ne, List.take_eq_nil_iff, not_or]
    exact ⟨by omega, Nat.toDigits_ne_nil⟩
  have back : ∀ c ∈ (Nat.toDigits 10 n).drop ((Nat.toDigits 10 n).length - places),
      c.isDigit = true :=
    fun c dropped => digits c (List.mem_of_mem_drop dropped)
  have text := says_positional (fun c taken => digits c (List.mem_of_mem_take taken)) front back
  rwa [List.take_append_drop, read, List.length_drop, Nat.sub_sub_self inside.le] at text

/-- The point before the digits, and zeros between. -/
theorem says_point_before {places : ℕ} (outside : (Nat.toDigits 10 n).length ≤ places) :
    Says (List.replicate 1 '0' ++ '.' ::
      (List.replicate (places - (Nat.toDigits 10 n).length) '0' ++ Nat.toDigits 10 n))
      (n / 10 ^ places) := by
  have read : Nat.ofDigitChars 10 (Nat.toDigits 10 n) 0 = n := Nat.ofDigitChars_ten_toDigits
  have text := says_positional (zeros_digits 1) (by simp)
    (append_digits (zeros_digits (places - (Nat.toDigits 10 n).length)) (toDigits_digits n))
  rwa [ofDigitChars_zeros, ofDigitChars_zeros, read, List.length_append, List.length_replicate,
    Nat.sub_add_cancel outside] at text

/-- Without an exponent the text says `n * 10 ^ exponent`. -/
theorem writePositional_says :
    Says (writePositional ".0" (toString n) exponent).toList (n * 10 ^ exponent) := by
  simp only [writePositional, length_toString]
  split
  · next up =>
    have text := says_point_behind n exponent.toNat
    rw [← zpow_natCast, Int.toNat_of_nonneg up] at text
    simpa [zeros, toList_toString] using text
  · next down =>
    have power : (n : ℚ) / 10 ^ (-exponent).toNat = n * 10 ^ exponent := by
      rw [← zpow_natCast, Int.toNat_of_nonneg (by omega), zpow_neg, div_inv_eq_mul]
    split
    · next inside =>
      have text := says_point_inside n inside
      rw [power] at text
      simpa [toList_toString] using text
    · next outside =>
      have text := says_point_before n (not_lt.mp outside)
      rw [power] at text
      simpa [zeros, toList_toString] using text

/-- A number with an exponent behind it. -/
theorem says_scientific {mantissa : List Char} {v : ℚ}
    (begins : ∃ c more, mantissa = c :: more ∧ c.isDigit = true)
    (numeral : ∀ c ∈ mantissa, isNumberChar c = true) (plain : 'e' ∉ mantissa)
    (value : positionalValue mantissa = v) (leading : ℤ) :
    Says (mantissa ++ 'e' :: (if leading < 0 then '-' else '+') :: Nat.toDigits 10 leading.natAbs)
      (v * 10 ^ leading) where
  value := by
    have read : Nat.ofDigitChars 10 (Nat.toDigits 10 leading.natAbs) 0 = leading.natAbs :=
      Nat.ofDigitChars_ten_toDigits
    rw [textValue, Text.cutAt_append plain]
    simp only [value]
    congr 2
    split
    · rw [signedValue, read]
      omega
    · rw [signedValue, read]
      omega
  begins := by
    obtain ⟨c, more, same, digit⟩ := begins
    exact ⟨c, _, by rw [same]; rfl, digit⟩
  numeral := by
    refine List.forall_mem_append.mpr ⟨numeral, ?_⟩
    refine List.forall_mem_cons.mpr ⟨rfl, List.forall_mem_cons.mpr ⟨?_, ?_⟩⟩
    · split <;> rfl
    · exact numeral_of_digits (toDigits_digits _)
  marked := Or.inr (by simp)

/-- With an exponent the text says `n * 10 ^ exponent`: its own exponent is that of the first
digit. -/
theorem writeScientific_says :
    Says (writeScientific true (toString n) (exponent + (toString n).length - 1)).toList
      (n * 10 ^ exponent) := by
  have digits := toDigits_digits n
  have read : Nat.ofDigitChars 10 (Nat.toDigits 10 n) 0 = n := Nat.ofDigitChars_ten_toDigits
  have sign (leading : ℤ) : (if leading < 0 then "-" else "+").toList =
      [if leading < 0 then '-' else '+'] := by
    split <;> rfl
  simp only [writeScientific, String.toList_append, toList_toString, length_toString, sign,
    if_true]
  obtain ⟨c, rest, written, -⟩ := exists_digit n
  rw [written] at digits read ⊢
  cases rest with
  | nil =>
    have text := says_scientific ⟨c, [], rfl, digits c List.mem_cons_self⟩
      (numeral_of_digits digits) (not_mem_of_digits digits rfl)
      (positionalValue_digits digits) (exponent + ([c].length : ℕ) - 1)
    have power : exponent + ([c].length : ℕ) - 1 = exponent := by simp
    rw [read, power] at text
    rw [power]
    simpa using text
  | cons d rest =>
    obtain ⟨first, others⟩ := List.forall_mem_cons.mp digits
    have single : ∀ e ∈ [c], e.isDigit = true := by simpa using first
    have mantissa := says_positional single (by simp) others
    have plain : 'e' ∉ [c] ++ '.' :: d :: rest := by
      have none := not_mem_of_digits digits (c := 'e') rfl
      simpa using none
    have text := says_scientific mantissa.begins mantissa.numeral plain
      (positionalValue_point single (d :: rest)) (exponent + ((c :: d :: rest).length : ℕ) - 1)
    have power : (n : ℚ) / 10 ^ (d :: rest).length *
        10 ^ (exponent + ((c :: d :: rest).length : ℕ) - 1) = n * 10 ^ exponent := by
      have places : exponent + ((c :: d :: rest).length : ℕ) - 1 =
          exponent + ((d :: rest).length : ℕ) := by
        simp only [List.length_cons]
        omega
      rw [places, zpow_add₀ (by norm_num), zpow_natCast]
      field_simp
    have whole : [c] ++ d :: rest = c :: d :: rest := rfl
    rw [whole, read, power] at text
    simpa using text

/-- Without its sign, the text of a number says zero or a point in the gap around the number. -/
theorem write_says (x : Binary64) : ∃ text v,
    (Layout.document.write x).toList = (if x.negative then ['-'] else []) ++ text ∧
      Says text v ∧ (x.count = 0 → v = 0) ∧ (x.count ≠ 0 → 0 < v ∧ (gapOf x).Contains v) := by
  have sign : (if x.negative then "-" else "").toList = if x.negative then ['-'] else [] := by
    split <;> rfl
  by_cases zero : x.isZero = true
  · have text := says_positional (zeros_digits 1) (by simp) (zeros_digits 1)
    have nothing := (isZero_iff x).mp zero
    refine ⟨_, _, ?_, text, fun _ => ?_, fun some => absurd nothing some⟩
    · rw [Layout.write, if_pos zero, String.toList_append, String.toList_append, sign,
        List.append_assoc]
      rfl
    · rw [ofDigitChars_zeros, Nat.ofDigitChars_replicate_zero, Nat.mul_zero, Nat.cast_zero,
        zero_div]
  · have nonzero : x.count ≠ 0 := fun none => zero ((isZero_iff x).mpr none)
    obtain ⟨positive, contains⟩ := shortest_contains nonzero
    rw [Layout.write, if_neg zero]
    simp only [String.toList_append, sign]
    refine ⟨_, _, rfl, ?_, fun none => absurd none nonzero, fun _ => ⟨positive, contains⟩⟩
    split
    · exact writePositional_says _ _
    · exact writeScientific_says _ _

end Written

/-- The text has characters of numbers only, among them a point or an `e`. -/
theorem write_chars (x : Binary64) :
    (∀ c ∈ (Layout.document.write x).toList, isNumberChar c = true) ∧
      ('.' ∈ (Layout.document.write x).toList ∨ 'e' ∈ (Layout.document.write x).toList) ∧
        (Layout.document.write x).toList ≠ [] := by
  obtain ⟨text, v, written, meaning, -⟩ := write_says x
  have sign : ∀ c ∈ (if x.negative then ['-'] else []), isNumberChar c = true := by
    intro c inside
    split at inside
    · rw [List.mem_singleton.mp inside]
      rfl
    · cases inside
  rw [written]
  refine ⟨List.forall_mem_append.mpr ⟨sign, meaning.numeral⟩, ?_, ?_⟩
  · exact meaning.marked.imp (List.mem_append_right _) (List.mem_append_right _)
  · obtain ⟨c, more, begins, -⟩ := meaning.begins
    simp [begins]

/-- A number is known by its text. -/
theorem write_injective : Function.Injective Layout.document.write := by
  intro x y same
  obtain ⟨text, v, written, meaning, zero, nonzero⟩ := write_says x
  obtain ⟨text', v', written', meaning', zero', nonzero'⟩ := write_says y
  rw [same, written'] at written
  -- only a sign is no digit
  have parts : x.negative = y.negative ∧ text = text' := by
    obtain ⟨c, more, begins, digit⟩ := meaning.begins
    obtain ⟨c', more', begins', digit'⟩ := meaning'.begins
    generalize x.negative = sign at written ⊢
    generalize y.negative = sign' at written ⊢
    cases sign <;> cases sign'
    · exact ⟨rfl, written.symm⟩
    · rw [begins] at written
      cases written
      cases digit
    · rw [begins'] at written
      cases written
      cases digit'
    · exact ⟨rfl, (List.cons.inj written).2.symm⟩
  have value : v = v' := by rw [← meaning.value, ← meaning'.value, parts.2]
  refine eq_of_count parts.1 ?_
  cases count : x.count with
  | zero =>
    by_contra other
    have positive := (nonzero' (Ne.symm other)).1
    rw [← value, zero count] at positive
    exact lt_irrefl _ positive
  | succ n =>
    have inside := nonzero (by omega)
    cases count' : y.count with
    | zero =>
      rw [value, zero' count'] at inside
      exact absurd inside.1 (lt_irrefl _)
    | succ k =>
      have inside' := nonzero' (by omega)
      rw [← value] at inside'
      rw [eq_of_contains count count' inside.2 inside'.2]

end Decimal

end Converge
