import Converge.Proofs.Magnitudes
import Mathlib.Tactic.GCongr

/-!
# The shortest decimal lies in the gap

The search for the shortest decimal ends on a grid that has a point in the gap around the number.
Seventeen digits are always enough: the grid of so many digits is finer than any gap is wide. So
what is found lies in the gap, and no two magnitudes are given the same decimal.
-/

namespace Converge.Decimal

open Binary64

section Compare

variable (a : ℕ) (unit : ℤ) (d : ℕ) (exponent : ℤ)

/-- What both sides of a comparison are multiplied by to become naturals. -/
def clearing : ℚ := 2 ^ (-unit).toNat * 10 ^ (-exponent).toNat

theorem clearing_pos : 0 < clearing unit exponent := by
  rw [clearing]
  positivity

theorem zpow_mul_toNat {base : ℚ} (nonzero : base ≠ 0) (n : ℤ) :
    base ^ n * base ^ (-n).toNat = base ^ n.toNat := by
  rw [← zpow_natCast, ← zpow_natCast, ← zpow_add₀ nonzero]
  congr 1
  omega

theorem binary_cleared :
    (a : ℚ) * 2 ^ unit * clearing unit exponent =
      (a * twoTo unit.toNat * tenTo (-exponent).toNat : ℕ) := by
  have moved := zpow_mul_toNat (show (2 : ℚ) ≠ 0 by norm_num) unit
  rw [clearing, twoTo_eq, tenTo_eq]
  push_cast
  rw [← moved]
  ring

theorem decimal_cleared :
    (d : ℚ) * 10 ^ exponent * clearing unit exponent =
      (d * twoTo (-unit).toNat * tenTo exponent.toNat : ℕ) := by
  have moved := zpow_mul_toNat (show (10 : ℚ) ≠ 0 by norm_num) exponent
  rw [clearing, twoTo_eq, tenTo_eq]
  push_cast
  rw [← moved]
  ring

theorem belowDecimal_iff :
    belowDecimal a unit d exponent = true ↔ (a : ℚ) * 2 ^ unit < d * 10 ^ exponent := by
  rw [← mul_lt_mul_iff_left₀ (clearing_pos unit exponent), binary_cleared, decimal_cleared,
    Nat.cast_lt, belowDecimal, decide_eq_true_eq]

theorem equalsDecimal_iff :
    equalsDecimal a unit d exponent = true ↔ (a : ℚ) * 2 ^ unit = d * 10 ^ exponent := by
  rw [← mul_left_inj' (clearing_pos unit exponent).ne', binary_cleared, decimal_cleared,
    Nat.cast_inj, equalsDecimal, decide_eq_true_eq]

end Compare

section Grid

variable (g : Gap)

theorem Gap.holds_iff (d : ℕ) (exponent : ℤ) :
    g.holds d exponent = true ↔ g.Contains (d * 10 ^ exponent) := by
  have low := belowDecimal_iff g.low g.unit d exponent
  have lowEnd := equalsDecimal_iff g.low g.unit d exponent
  have high := belowDecimal_iff g.high g.unit d exponent
  have highEnd := equalsDecimal_iff g.high g.unit d exponent
  rw [← Gap.at] at low lowEnd high highEnd
  simp only [Gap.holds, Bool.and_eq_true, Bool.or_eq_true, Bool.not_eq_true', ← Bool.not_eq_true,
    low, lowEnd, high, highEnd, not_lt]
  constructor
  · rintro ⟨above, notAbove, closed | open_⟩
    · exact ⟨above, (lt_or_eq_of_le notAbove).imp id fun same => ⟨closed, same⟩⟩
    · exact ⟨above, Or.inl (lt_of_le_of_ne notAbove (Ne.symm open_))⟩
  · rintro ⟨above, below | ⟨closed, same⟩⟩
    · exact ⟨above, below.le, Or.inr below.ne'⟩
    · exact ⟨above, same.le, Or.inl closed⟩

theorem Gap.floorOn_le (exponent : ℤ) :
    (g.floorOn exponent : ℚ) * 10 ^ exponent ≤ g.at g.value := by
  rw [← mul_le_mul_iff_left₀ (clearing_pos g.unit exponent), decimal_cleared, Gap.at,
    binary_cleared, Nat.cast_le, Nat.mul_assoc]
  exact Nat.div_mul_le_self _ _

theorem Gap.lt_floorOn_succ (exponent : ℤ) :
    g.at g.value < (g.floorOn exponent + 1 : ℕ) * 10 ^ exponent := by
  rw [← mul_lt_mul_iff_left₀ (clearing_pos g.unit exponent), decimal_cleared, Gap.at,
    binary_cleared, Nat.cast_lt, Nat.mul_assoc (g.floorOn exponent + 1)]
  have positive : 0 < twoTo (-g.unit).toNat * tenTo exponent.toNat := by
    rw [twoTo_eq, tenTo_eq]
    positivity
  exact (Nat.div_lt_iff_lt_mul positive).mp (Nat.lt_succ_self _)

theorem Gap.chooseOn_some {exponent : ℤ} {d : ℕ} (chosen : g.chooseOn exponent = some d) :
    0 < d ∧ g.Contains (d * 10 ^ exponent) := by
  rw [← Gap.holds_iff]
  simp only [Gap.chooseOn] at chosen
  split at chosen
  · next lower upper =>
    rw [Bool.and_eq_true, decide_eq_true_eq] at lower
    split at chosen <;> cases chosen
    · exact ⟨lower.2, lower.1⟩
    · exact ⟨Nat.succ_pos _, upper⟩
  · next lower upper =>
    rw [Bool.and_eq_true, decide_eq_true_eq] at lower
    cases chosen
    exact ⟨lower.2, lower.1⟩
  · next lower upper =>
    cases chosen
    exact ⟨Nat.succ_pos _, upper⟩
  · cases chosen

/-- A grid that is finer than the gap is wide has a point in the gap. -/
theorem Gap.chooseOn_isSome (below : g.at g.low < g.at g.value) (above : g.at g.value < g.at g.high)
    {exponent : ℤ} (fine : (10 : ℚ) ^ exponent < g.at g.high - g.at g.low) :
    (g.chooseOn exponent).isSome = true := by
  have floor := g.floorOn_le exponent
  have next := g.lt_floorOn_succ exponent
  have start : 0 ≤ g.at g.low := by
    rw [Gap.at]
    positivity
  -- both neighbours of the number cannot lie outside, for they are closer to each other
  by_cases upper : g.holds (g.floorOn exponent + 1) exponent = true
  · unfold Gap.chooseOn
    simp only [upper]
    cases g.holds (g.floorOn exponent) exponent && 0 < g.floorOn exponent <;> rfl
  · have outside : g.at g.high ≤ (g.floorOn exponent + 1 : ℕ) * 10 ^ exponent := by
      by_contra inside
      exact upper ((g.holds_iff _ _).mpr ⟨Or.inl (by linarith), Or.inl (not_le.mp inside)⟩)
    push_cast at outside
    have lower : g.at g.low < g.floorOn exponent * 10 ^ exponent := by linarith
    have holds : g.holds (g.floorOn exponent) exponent = true :=
      (g.holds_iff _ _).mpr ⟨Or.inl lower, Or.inl (by linarith)⟩
    have positive : 0 < g.floorOn exponent := by
      by_contra zero
      rw [Nat.eq_zero_of_not_pos zero, Nat.cast_zero, zero_mul] at lower
      linarith
    unfold Gap.chooseOn
    simp [holds, positive, upper]

end Grid

theorem stripZeros_value (fuel d : ℕ) (exponent : ℤ) :
    ((stripZeros fuel d exponent).digits : ℚ) * 10 ^ (stripZeros fuel d exponent).exponent =
      d * 10 ^ exponent := by
  induction fuel generalizing d exponent with
  | zero => rfl
  | succ fuel ih =>
    rw [stripZeros]
    split
    · next trailing =>
      rw [Bool.and_eq_true, decide_eq_true_eq] at trailing
      have tenfold : d = d / 10 * 10 := by omega
      rw [ih, zpow_add_one₀ (by norm_num)]
      conv_rhs => rw [tenfold]
      push_cast
      ring
    · rfl

/-- If the last grid has a point in the gap, what is found is a point of some grid in the gap,
without its trailing zeros. -/
theorem search_found {g : Gap} {top : ℤ} (last : (g.chooseOn (top - 17)).isSome = true)
    (fuel : ℕ) : ∃ d exponent, g.chooseOn exponent = some d ∧
      search g top (fuel + 1) = stripZeros 20 d exponent := by
  induction fuel with
  | zero =>
    obtain ⟨d, chosen⟩ := Option.isSome_iff_exists.mp last
    have chosen' : g.chooseOn (top - (17 - 0 : ℕ)) = some d := chosen
    refine ⟨d, top - 17, chosen, ?_⟩
    rw [search]
    simp only [chosen']
    rfl
  | succ fuel ih =>
    rw [search]
    cases chosen : g.chooseOn (top - (17 - (fuel + 1) : ℕ)) with
    | none => simpa only [chosen] using ih
    | some d => exact ⟨d, _, chosen, rfl⟩

/-- The quotient 30103 / 100000 is near enough to the decimal logarithm of two. -/
theorem ten_zpow_le_two_zpow {magnitude guess : ℤ} (least : -1074 ≤ magnitude)
    (greatest : magnitude ≤ 1024) (guessed : 100000 * guess ≤ 30103 * magnitude) :
    (10 : ℚ) ^ (guess - 1) ≤ 2 ^ magnitude := by
  -- in each direction a power of two just beside a power of ten decides
  by_cases sign : 1 ≤ guess
  · have powers : (10 : ℚ) ^ (31 * (guess - 1)) ≤ 2 ^ (31 * magnitude) :=
      calc (10 : ℚ) ^ (31 * (guess - 1)) = (10 ^ (31 : ℤ)) ^ (guess - 1) := zpow_mul ..
        _ ≤ (2 ^ (103 : ℤ)) ^ (guess - 1) :=
          zpow_le_zpow_left₀ (by omega) (by positivity) (by norm_num)
        _ = 2 ^ (103 * (guess - 1)) := (zpow_mul ..).symm
        _ ≤ 2 ^ (31 * magnitude) := zpow_le_zpow_right₀ (by norm_num) (by omega)
    rw [mul_comm 31, mul_comm 31, zpow_mul, zpow_mul] at powers
    exact (pow_le_pow_iff_left₀ (by positivity) (by positivity) (by norm_num)).mp
      (by exact_mod_cast powers : ((10 : ℚ) ^ (guess - 1)) ^ 31 ≤ (2 ^ magnitude) ^ 31)
  · have powers : (10 : ℚ) ^ (16 * (guess - 1)) ≤ 2 ^ (16 * magnitude) :=
      calc (10 : ℚ) ^ (16 * (guess - 1)) = ((10 ^ (16 : ℤ)) ^ (1 - guess))⁻¹ := by
            rw [← zpow_neg, ← zpow_mul]
            ring_nf
        _ ≤ ((2 ^ (53 : ℤ)) ^ (1 - guess))⁻¹ :=
          inv_anti₀ (by positivity)
            (zpow_le_zpow_left₀ (by omega) (by positivity) (by norm_num))
        _ = 2 ^ (53 * (guess - 1)) := by
            rw [← zpow_neg, ← zpow_mul]
            ring_nf
        _ ≤ 2 ^ (16 * magnitude) := zpow_le_zpow_right₀ (by norm_num) (by omega)
    rw [mul_comm 16, mul_comm 16, zpow_mul, zpow_mul] at powers
    exact (pow_le_pow_iff_left₀ (by positivity) (by positivity) (by norm_num)).mp
      (by exact_mod_cast powers : ((10 : ℚ) ^ (guess - 1)) ^ 16 ≤ (2 ^ magnitude) ^ 16)

section Shortest

variable {x : Binary64} (nonzero : x.count ≠ 0)

include nonzero

theorem two_zpow_le_magnitude :
    (2 : ℚ) ^ ((x.significand.log2 : ℤ) + x.scale) ≤ magnitudeAt x.count := by
  have significand : 2 ^ x.significand.log2 ≤ x.significand := by
    refine Nat.log2_self_le ?_
    rw [significand_eq]
    exact (significandAt_pos nonzero).ne'
  rw [magnitudeAt, ← significand_eq, ← scale_eq, zpow_add₀ (by norm_num), zpow_natCast]
  gcongr
  exact_mod_cast significand

/-- The number is not below the last power of ten before the top. -/
theorem topExponent_le : (10 : ℚ) ^ (topExponent x - 1) ≤ magnitudeAt x.count := by
  have reached (e : ℤ) : (!belowDecimal (4 * x.significand) (x.scale - 2) 1 e) = true ↔
      (10 : ℚ) ^ e ≤ magnitudeAt x.count := by
    have value := gapOf_value x
    have below := belowDecimal_iff (4 * x.significand) (x.scale - 2) 1 e
    rw [Bool.not_eq_true', ← Bool.not_eq_true, below, not_lt, ← value, Nat.cast_one, one_mul]
    rfl
  have log : x.significand.log2 ≤ 52 := by
    refine Nat.lt_succ_iff.mp ((Nat.log2_lt ?_).mpr ?_)
    · rw [significand_eq]
      exact (significandAt_pos nonzero).ne'
    · rw [significand_eq]
      exact significandAt_lt x.count
  have scale : -1074 ≤ x.scale ∧ x.scale ≤ 972 := by
    have below : x.count < 2 ^ 63 := Nat.mod_lt _ (by norm_num)
    rw [scale_eq, scaleAt]
    split <;> omega
  simp only [topExponent, reached]
  split
  · next high => rwa [show ∀ e : ℤ, e + 2 - 1 = e + 1 by intro e; ring]
  split
  · next high => rwa [show ∀ e : ℤ, e + 1 - 1 = e by intro e; ring]
  · exact le_trans (ten_zpow_le_two_zpow (by omega) (by omega) (by omega))
      (two_zpow_le_magnitude nonzero)

/-- The grid of seventeen digits is finer than the gap is wide. -/
theorem gap_wide :
    (10 : ℚ) ^ (topExponent x - 17) < (gapOf x).at (gapOf x).high - (gapOf x).at (gapOf x).low := by
  have top := topExponent_le nonzero
  have grid : (10 : ℚ) ^ (topExponent x - 17) = 10 ^ (topExponent x - 1) / 10 ^ 16 := by
    rw [show topExponent x - 17 = topExponent x - 1 - 16 by ring, zpow_sub₀ (by norm_num)]
    rfl
  have bound := significandAt_lt x.count
  have positive := significandAt_pos nonzero
  rw [← gapOf_value] at top
  rw [← significand_eq] at bound positive
  have unit : (0 : ℚ) < 2 ^ (gapOf x).unit := by positivity
  -- the gap has four quarters, or three if the significand is the least one of its size
  have quarters : (gapOf x).value + 10 ^ 16 * (gapOf x).low < 10 ^ 16 * (gapOf x).high := by
    have least (narrow : x.fraction = 0 ∧ 1 < x.exponentField) : x.significand = 2 ^ 52 := by
      rw [significand, if_neg (by omega), narrow.1, twoTo_eq, Nat.add_zero]
    simp only [gapOf, Bool.and_eq_true, decide_eq_true_eq]
    split
    · next narrow =>
      rw [least narrow]
      norm_num
    · omega
  have quarters : ((gapOf x).value : ℚ) + 10 ^ 16 * (gapOf x).low < 10 ^ 16 * (gapOf x).high := by
    exact_mod_cast quarters
  rw [Gap.at] at top
  rw [Gap.at, Gap.at, ← sub_mul, grid]
  calc (10 : ℚ) ^ (topExponent x - 1) / 10 ^ 16
      ≤ ((gapOf x).value : ℚ) * 2 ^ (gapOf x).unit / 10 ^ 16 := by gcongr
    _ = ((gapOf x).value : ℚ) / 10 ^ 16 * 2 ^ (gapOf x).unit := by ring
    _ < ((gapOf x).high - (gapOf x).low : ℚ) * 2 ^ (gapOf x).unit := by
      gcongr
      rw [div_lt_iff₀ (by positivity)]
      linarith

/-- The shortest decimal is positive and lies in the gap. -/
theorem shortest_contains :
    (0 : ℚ) < (shortest x).digits * 10 ^ (shortest x).exponent ∧
      (gapOf x).Contains ((shortest x).digits * 10 ^ (shortest x).exponent) := by
  have positive := magnitudeAt_pos nonzero
  obtain ⟨n, count⟩ := Nat.exists_eq_succ_of_ne_zero nonzero
  have below : (gapOf x).at (gapOf x).low < (gapOf x).at (gapOf x).value := by
    have up := magnitudeAt_strictMono (Nat.lt_add_one n)
    rw [gapOf_low count, gapOf_value, count, midpointAt, Nat.succ_eq_add_one]
    linarith
  have above : (gapOf x).at (gapOf x).value < (gapOf x).at (gapOf x).high := by
    have up := magnitudeAt_strictMono (Nat.lt_add_one x.count)
    rw [gapOf_high, gapOf_value, midpointAt]
    linarith
  obtain ⟨d, exponent, chosen, found⟩ :=
    search_found (Gap.chooseOn_isSome _ below above (gap_wide nonzero)) 16
  have same : shortest x = stripZeros 20 d exponent := found
  obtain ⟨some, contains⟩ := Gap.chooseOn_some _ chosen
  rw [same, stripZeros_value]
  refine ⟨?_, contains⟩
  have some : (0 : ℚ) < d := by exact_mod_cast some
  positivity

end Shortest

end Converge.Decimal
