import Mathlib.Algebra.Order.Field.Rat
import Mathlib.Algebra.Order.AbsoluteValue.Basic
import Mathlib.Algebra.Ring.Parity
import Mathlib.Tactic.Linarith
import Mathlib.Tactic.Positivity
import TileMatch.Binary32

/-!
# Rounding to the nearest natural number

`Rounds` says what a quantity is rounded to, without saying how: nothing is nearer, and a half goes
to the even neighbour. There is at most one such number and it grows with the quantity, and
`roundedQuotient` is one for a quotient of natural numbers.
-/

namespace TileMatch

/-- A natural number is what a quantity is rounded to: it is at most a half away, and even if it is
a half away. -/
structure Rounds (quantity : ℚ) (rounded : ℕ) : Prop where
  near : |(rounded : ℚ) - quantity| ≤ 1 / 2
  even : |(rounded : ℚ) - quantity| = 1 / 2 → Even rounded

namespace Rounds

variable {quantity other : ℚ} {rounded otherRounded : ℕ}

/-- What is rounded keeps its order. -/
theorem mono (less : quantity ≤ other) (first : Rounds quantity rounded)
    (second : Rounds other otherRounded) : rounded ≤ otherRounded := by
  by_contra above
  have next : (otherRounded : ℚ) + 1 ≤ rounded := by
    exact_mod_cast Nat.lt_of_not_le above
  have firstNear := abs_le.mp first.near
  have secondNear := abs_le.mp second.near
  -- Both are a half away from the same quantity, from two sides, so that both are even.
  have same : (rounded : ℚ) = otherRounded + 1 := by linarith
  have rounded_even : Even rounded := by
    apply first.even
    rw [abs_of_nonneg] <;> linarith
  have other_even : Even otherRounded := by
    apply second.even
    rw [abs_of_nonpos] <;> linarith
  have successor : rounded = otherRounded + 1 := by exact_mod_cast same
  rw [successor] at rounded_even
  exact Nat.not_even_iff_odd.mpr other_even.add_one rounded_even

theorem unique (first : Rounds quantity rounded) (second : Rounds quantity otherRounded) :
    rounded = otherRounded :=
  Nat.le_antisymm (mono le_rfl first second) (mono le_rfl second first)

theorem natCast (number : ℕ) : Rounds number number where
  near := by norm_num
  even := by norm_num

end Rounds

theorem Rounds.of_lt_half {whole : ℕ} {part : ℚ} (nonneg : 0 ≤ part) (below : part < 1 / 2) :
    Rounds (whole + part) whole := by
  have distance : |(whole : ℚ) - (whole + part)| = part := by
    rw [abs_of_nonpos] <;> linarith
  exact ⟨distance.trans_le below.le, fun half => absurd (distance.symm.trans half) below.ne⟩

theorem Rounds.of_half_lt {whole : ℕ} {part : ℚ} (above : 1 / 2 < part) (below : part < 1) :
    Rounds (whole + part) (whole + 1) := by
  have distance : |((whole + 1 : ℕ) : ℚ) - (whole + part)| = 1 - part := by
    push_cast
    rw [abs_of_nonneg] <;> linarith
  refine ⟨by rw [distance]; linarith, fun half => ?_⟩
  rw [distance] at half
  linarith

theorem Rounds.of_half (whole : ℕ) : Rounds (whole + 1 / 2) (whole + whole % 2) := by
  rcases Nat.even_or_odd whole with isEven | isOdd
  · rw [Nat.even_iff.mp isEven, Nat.add_zero]
    refine ⟨?_, fun _ => isEven⟩
    rw [abs_of_nonpos] <;> linarith
  · rw [Nat.odd_iff.mp isOdd]
    refine ⟨?_, fun _ => isOdd.add_one⟩
    push_cast
    rw [abs_of_nonneg] <;> linarith

theorem roundedQuotient_rounds (numerator : ℕ) {denominator : ℕ} (positive : 0 < denominator) :
    Rounds (numerator / denominator) (roundedQuotient numerator denominator) := by
  have size : (0 : ℚ) < denominator := by exact_mod_cast positive
  have below : ((numerator % denominator : ℕ) : ℚ) < denominator := by
    exact_mod_cast Nat.mod_lt numerator positive
  have exact : (numerator : ℚ) / denominator =
      (numerator / denominator : ℕ) + (numerator % denominator : ℕ) / (denominator : ℚ) := by
    rw [eq_comm, add_comm, div_add' _ _ _ size.ne', mul_comm]
    congr 1
    exact_mod_cast Nat.mod_add_div numerator denominator
  rw [exact, roundedQuotient]
  split
  case isTrue less =>
    have lessHalf : 2 * ((numerator % denominator : ℕ) : ℚ) < denominator := by
      exact_mod_cast less
    exact .of_lt_half (by positivity) ((div_lt_iff₀ size).mpr (by linarith))
  case isFalse notLess =>
    split
    case isTrue more =>
      have moreHalf : (denominator : ℚ) < 2 * (numerator % denominator : ℕ) := by
        exact_mod_cast more
      exact .of_half_lt ((lt_div_iff₀ size).mpr (by linarith)) ((div_lt_one size).mpr below)
    case isFalse notMore =>
      have half : 2 * ((numerator % denominator : ℕ) : ℚ) = denominator := by
        exact_mod_cast Nat.le_antisymm (Nat.le_of_not_lt notMore) (Nat.le_of_not_lt notLess)
      have part : ((numerator % denominator : ℕ) : ℚ) / denominator = 1 / 2 := by
        rw [div_eq_div_iff size.ne' two_ne_zero]
        linarith
      rw [part]
      exact .of_half _

theorem roundedQuotient_mono {numerator denominator otherNumerator otherDenominator : ℕ}
    (positive : 0 < denominator) (otherPositive : 0 < otherDenominator)
    (less : numerator * otherDenominator ≤ otherNumerator * denominator) :
    roundedQuotient numerator denominator ≤ roundedQuotient otherNumerator otherDenominator := by
  refine Rounds.mono ?_ (roundedQuotient_rounds numerator positive)
    (roundedQuotient_rounds otherNumerator otherPositive)
  rw [div_le_div_iff₀ (by exact_mod_cast positive) (by exact_mod_cast otherPositive)]
  exact_mod_cast less

theorem roundedQuotient_mul_left (number : ℕ) {denominator : ℕ} (positive : 0 < denominator) :
    roundedQuotient (number * denominator) denominator = number := by
  refine Rounds.unique (roundedQuotient_rounds _ positive) ?_
  have size : (denominator : ℚ) ≠ 0 := by exact_mod_cast positive.ne'
  rw [Nat.cast_mul, mul_div_cancel_right₀ _ size]
  exact .natCast number

theorem roundedQuotient_mul_mul (numerator denominator : ℕ) {factor : ℕ} (positive : 0 < factor) :
    roundedQuotient (numerator * factor) (denominator * factor) =
      roundedQuotient numerator denominator := by
  have doubled : ∀ rest, 2 * (rest * factor) = 2 * rest * factor :=
    fun rest => (Nat.mul_assoc 2 rest factor).symm
  simp only [roundedQuotient, Nat.mul_div_mul_right _ _ positive, Nat.mul_mod_mul_right, doubled,
    Nat.mul_lt_mul_right positive]

end TileMatch
