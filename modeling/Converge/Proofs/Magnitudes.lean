import Converge.Decimal.Shortest
import Mathlib.Algebra.Order.Field.Rat
import Mathlib.Algebra.Order.Field.Power
import Mathlib.Order.Monotone.Basic
import Mathlib.Tactic.FieldSimp
import Mathlib.Tactic.Linarith
import Mathlib.Tactic.NormNum
import Mathlib.Tactic.Positivity
import Mathlib.Tactic.Push
import Mathlib.Tactic.Ring

/-!
# Magnitudes of floating-point numbers

The bits of a number without its sign count the magnitudes in their order: each next one lies one
unit of its place higher. The gap around a number ends half-way to its two neighbours, and its
ends belong to it only if the count is even, so the gaps of different magnitudes have no decimal
in common.
-/

namespace Converge

theorem twoTo_eq (n : ℕ) : twoTo n = 2 ^ n := rfl

theorem tenTo_eq (n : ℕ) : tenTo n = 10 ^ n := rfl

namespace Binary64

/-- The significand of the magnitude that is counted so. -/
def significandAt (count : ℕ) : ℕ :=
  if count / 2 ^ 52 = 0 then count % 2 ^ 52 else 2 ^ 52 + count % 2 ^ 52

def scaleAt (count : ℕ) : ℤ :=
  if count / 2 ^ 52 = 0 then -1074 else (count / 2 ^ 52 : ℕ) - 1075

/-- The magnitude that is counted so. -/
def magnitudeAt (count : ℕ) : ℚ := significandAt count * 2 ^ scaleAt count

/-- The bits without the sign, as a count. -/
def count (x : Binary64) : ℕ := x.bits.toNat % 2 ^ 63

theorem exponentField_eq (x : Binary64) : x.exponentField = x.count / 2 ^ 52 := by
  rw [exponentField, count, twoTo_eq, twoTo_eq]
  omega

theorem fraction_eq (x : Binary64) : x.fraction = x.count % 2 ^ 52 := by
  rw [fraction, count, twoTo_eq]
  omega

theorem significand_eq (x : Binary64) : x.significand = significandAt x.count := by
  rw [significand, significandAt, exponentField_eq, fraction_eq, twoTo_eq]

theorem scale_eq (x : Binary64) : x.scale = scaleAt x.count := by
  rw [scale, scaleAt, exponentField_eq]

/-- A number is its sign and its count. -/
theorem eq_of_count {x y : Binary64} (sign : x.negative = y.negative) (same : x.count = y.count) :
    x = y := by
  have bits : x.bits.toNat = y.bits.toNat := by
    have below := x.bits.toNat_lt
    have below' := y.bits.toNat_lt
    rw [count, count] at same
    rw [negative, negative, decide_eq_decide, twoTo_eq] at sign
    omega
  cases x
  cases y
  exact congrArg Binary64.mk (UInt64.toNat_inj.mp bits)

theorem isZero_iff (x : Binary64) : x.isZero = true ↔ x.count = 0 := by
  rw [isZero, Bool.and_eq_true, decide_eq_true_eq, decide_eq_true_eq, exponentField_eq, fraction_eq]
  omega

theorem significandAt_lt (count : ℕ) : significandAt count < 2 ^ 53 := by
  rw [significandAt]
  split <;> omega

theorem significandAt_pos {count : ℕ} (positive : count ≠ 0) : 0 < significandAt count := by
  rw [significandAt]
  split <;> omega

theorem significandAt_even (count : ℕ) : significandAt count % 2 = count % 2 := by
  rw [significandAt]
  split <;> omega

/-- Is the magnitude a power of two below which the magnitudes lie twice as dense? -/
def IsNarrow (count : ℕ) : Prop := count % 2 ^ 52 = 0 ∧ 1 < count / 2 ^ 52

theorem succ_of_narrow {count : ℕ} (narrow : IsNarrow (count + 1)) :
    significandAt count + 1 = 2 ^ 53 ∧ significandAt (count + 1) = 2 ^ 52 ∧
      scaleAt count = scaleAt (count + 1) - 1 := by
  obtain ⟨carries, normal⟩ := narrow
  refine ⟨?_, ?_, ?_⟩
  · rw [significandAt, if_neg (by omega)]
    omega
  · rw [significandAt, if_neg (by omega), carries, Nat.add_zero]
  · rw [scaleAt, scaleAt, if_neg (by omega), if_neg (by omega)]
    omega

theorem succ_of_not_narrow {count : ℕ} (wide : ¬IsNarrow (count + 1)) :
    significandAt (count + 1) = significandAt count + 1 ∧ scaleAt (count + 1) = scaleAt count := by
  rw [IsNarrow] at wide
  constructor
  · rw [significandAt, significandAt]
    split <;> split <;> omega
  · rw [scaleAt, scaleAt]
    split <;> split <;> omega

/-- The next magnitude is one unit higher. -/
theorem magnitudeAt_succ (count : ℕ) :
    magnitudeAt (count + 1) = (significandAt count + 1) * 2 ^ scaleAt count := by
  rw [magnitudeAt, ← Nat.cast_add_one]
  by_cases narrow : IsNarrow (count + 1)
  · obtain ⟨carried, power, scale⟩ := succ_of_narrow narrow
    rw [carried, power, scale, zpow_sub_one₀ (by norm_num)]
    push_cast
    ring
  · obtain ⟨significand, scale⟩ := succ_of_not_narrow narrow
    rw [significand, scale]

theorem magnitudeAt_strictMono : StrictMono magnitudeAt := by
  refine strictMono_nat_of_lt_succ fun count => ?_
  have unit : (0 : ℚ) < 2 ^ scaleAt count := by positivity
  rw [magnitudeAt_succ, magnitudeAt]
  linarith

theorem magnitudeAt_pos {count : ℕ} (positive : count ≠ 0) : 0 < magnitudeAt count := by
  have significand : (0 : ℚ) < significandAt count := by
    exact_mod_cast significandAt_pos positive
  rw [magnitudeAt]
  positivity

def midpointAt (count : ℕ) : ℚ := (magnitudeAt count + magnitudeAt (count + 1)) / 2

theorem midpointAt_strictMono : StrictMono midpointAt := by
  refine strictMono_nat_of_lt_succ fun count => ?_
  have first := magnitudeAt_strictMono (Nat.lt_add_one count)
  have second := magnitudeAt_strictMono (Nat.lt_add_one (count + 1))
  rw [midpointAt, midpointAt]
  linarith

end Binary64

namespace Decimal

open Binary64

/-- The end of a gap as a number. -/
def Gap.at (g : Gap) (quarters : ℕ) : ℚ := quarters * 2 ^ g.unit

structure Gap.Contains (g : Gap) (v : ℚ) : Prop where
  above : g.at g.low < v ∨ g.closed = true ∧ g.at g.low = v
  below : v < g.at g.high ∨ g.closed = true ∧ v = g.at g.high

variable {x y : Binary64}

theorem gapOf_value (x : Binary64) : (gapOf x).at (gapOf x).value = magnitudeAt x.count := by
  simp only [Gap.at, gapOf, magnitudeAt, significand_eq, scale_eq]
  rw [zpow_sub₀ (by norm_num)]
  push_cast
  ring

theorem gapOf_high (x : Binary64) : (gapOf x).at (gapOf x).high = midpointAt x.count := by
  rw [midpointAt, magnitudeAt_succ, magnitudeAt]
  simp only [Gap.at, gapOf, significand_eq, scale_eq]
  rw [zpow_sub₀ (by norm_num)]
  push_cast
  ring

theorem gapOf_closed (x : Binary64) : (gapOf x).closed = true ↔ x.count % 2 = 0 := by
  simp only [gapOf, decide_eq_true_eq, significand_eq, significandAt_even]

/-- The gap of the next number begins where that of this one ends. -/
theorem gapOf_low {n : ℕ} (next : x.count = n + 1) :
    (gapOf x).at (gapOf x).low = midpointAt n := by
  have unit := zpow_sub₀ (show (2 : ℚ) ≠ 0 by norm_num) (scaleAt (n + 1)) 2
  simp only [Gap.at, gapOf, significand_eq, scale_eq, next, fraction_eq, exponentField_eq,
    Bool.and_eq_true, decide_eq_true_eq, unit]
  rw [midpointAt, magnitudeAt, magnitudeAt]
  split
  · next narrow =>
    obtain ⟨carried, power, scale⟩ := succ_of_narrow narrow
    have last : significandAt n = 2 ^ 53 - 1 := by omega
    rw [last, power, scale, zpow_sub_one₀ (by norm_num)]
    push_cast
    ring
  · next wide =>
    obtain ⟨significand, scale⟩ := succ_of_not_narrow wide
    have quarters : 4 * (significandAt n + 1) - 2 = 4 * significandAt n + 2 := by omega
    rw [significand, scale, quarters]
    push_cast
    ring

/-- No number lies in the gaps of two magnitudes. -/
theorem eq_of_contains {n k : ℕ} (count : x.count = n + 1) (count' : y.count = k + 1) {v : ℚ}
    (inside : (gapOf x).Contains v) (inside' : (gapOf y).Contains v) : n = k := by
  -- of two gaps the lower one ends where the other one begins, at the latest
  have apart {x y : Binary64} {n k : ℕ} (count : x.count = n + 1) (count' : y.count = k + 1)
      (inside : (gapOf x).Contains v) (inside' : (gapOf y).Contains v) : ¬n < k := by
    intro lower
    have ends : midpointAt (n + 1) ≤ midpointAt k := midpointAt_strictMono.monotone lower
    obtain ⟨-, below⟩ := inside
    obtain ⟨above, -⟩ := inside'
    rw [gapOf_high, gapOf_closed, count] at below
    rw [gapOf_low count', gapOf_closed, count'] at above
    rcases below with below | ⟨even, atEnd⟩
    · rcases above with above | ⟨-, atStart⟩ <;> linarith
    · rcases above with above | ⟨even', atStart⟩
      · linarith
      · have neighbours : n + 1 = k :=
          midpointAt_strictMono.injective (atEnd.symm.trans atStart.symm)
        omega
  have first := apart count count' inside inside'
  have second := apart count' count inside' inside
  omega

end Decimal

end Converge
