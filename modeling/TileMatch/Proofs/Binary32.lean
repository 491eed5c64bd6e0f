import Mathlib.Order.Monotone.Basic
import TileMatch.Proofs.Rounding

/-!
# The order of single-precision numbers

Magnitudes are consecutive, and a greater magnitude is a greater number of units. So a bound on the
size of a number is a bound on its magnitude, and right below a power of two there is a gap.
-/

namespace TileMatch

namespace Binary32

/-- The number that a finite single-precision number is. -/
def value (number : Binary32) : ℚ := (if number.negative then -1 else 1) * (number.units / one)

theorem one_pos : 0 < one := by decide

theorem unitsOf_of_lt_binade {magnitude : ℕ} (small : magnitude < binade) :
    unitsOf magnitude = magnitude := by
  rw [unitsOf, if_pos (Nat.div_eq_of_lt small)]

/-- From the second binade on, the units are given by the place in the binade and its number. -/
theorem unitsOf_add (exponent : ℕ) {place : ℕ} (below : place < binade) :
    unitsOf ((exponent + 1) * binade + place) = (binade + place) * 2 ^ exponent := by
  have quotient : ((exponent + 1) * binade + place) / binade = exponent + 1 := by
    rw [Nat.add_comm, Nat.add_mul_div_right _ _ (by decide), Nat.div_eq_of_lt below, Nat.zero_add]
  have rest : ((exponent + 1) * binade + place) % binade = place := by
    rw [Nat.add_comm, Nat.add_mul_mod_self_right, Nat.mod_eq_of_lt below]
  rw [unitsOf, quotient, rest, if_neg (Nat.succ_ne_zero _), Nat.add_sub_cancel,
    Nat.shiftLeft_eq]

theorem magnitude_cases (magnitude : ℕ) : magnitude < binade ∨
    ∃ exponent place, place < binade ∧ magnitude = (exponent + 1) * binade + place := by
  rcases Nat.lt_or_ge magnitude binade with small | large
  · exact .inl small
  · refine .inr ⟨magnitude / binade - 1, magnitude % binade, Nat.mod_lt _ (by decide), ?_⟩
    have whole : 1 ≤ magnitude / binade := (Nat.one_le_div_iff (by decide)).mpr large
    rw [Nat.sub_add_cancel whole, Nat.mul_comm, Nat.div_add_mod]

theorem unitsOf_lt_succ (magnitude : ℕ) : unitsOf magnitude < unitsOf (magnitude + 1) := by
  rcases magnitude_cases magnitude with small | ⟨exponent, place, below, rfl⟩
  · rw [unitsOf_of_lt_binade small]
    have upTo : magnitude + 1 ≤ binade := small
    rcases Nat.lt_or_eq_of_le upTo with next | last
    · rw [unitsOf_of_lt_binade next]
      exact Nat.lt_succ_self _
    · have first : unitsOf binade = binade := by decide
      rw [last, first]
      exact small
  · rw [unitsOf_add exponent below]
    have upTo : place + 1 ≤ binade := below
    rcases Nat.lt_or_eq_of_le upTo with next | last
    · rw [Nat.add_assoc, unitsOf_add exponent next]
      exact Nat.mul_lt_mul_of_pos_right (by omega) (Nat.two_pow_pos _)
    · -- The end of a binade is the start of the next one.
      have following : (exponent + 1) * binade + place + 1 = (exponent + 1 + 1) * binade + 0 := by
        rw [Nat.add_assoc, last, Nat.add_zero (_ * binade), Nat.succ_mul (exponent + 1)]
      rw [following, unitsOf_add (exponent + 1) (by decide), Nat.pow_succ, Nat.mul_comm _ 2,
        ← Nat.mul_assoc]
      exact Nat.mul_lt_mul_of_pos_right (by omega) (Nat.two_pow_pos _)

theorem unitsOf_strictMono : StrictMono unitsOf := strictMono_nat_of_lt_succ unitsOf_lt_succ

/-! ## Values -/

variable {number other : Binary32}

theorem units_eq_zero_iff : number.units = 0 ↔ number.magnitude = 0 :=
  unitsOf_strictMono.injective.eq_iff' rfl

/-- A finite number that is not below zero is its units, be it the zero with a sign. -/
theorem value_eq (finite : number.isFinite = true) (nonneg : number.isBelowZero = false) :
    number.value = number.units / one := by
  cases sign : number.negative with
  | false => simp [value, sign]
  | true =>
      have notNaN : number.isNaN = false := by
        simp only [isNaN, isFinite, decide_eq_true_eq, decide_eq_false_iff_not] at finite ⊢
        omega
      have zero : number.magnitude = 0 := by
        simpa [isBelowZero, sign, notNaN] using nonneg
      simp [value, units_eq_zero_iff.mpr zero]

theorem value_of_units {whole : ℕ} (finite : number.isFinite = true)
    (nonneg : number.isBelowZero = false) (size : number.units = whole * one) :
    number.value = whole := by
  have positive : (one : ℚ) ≠ 0 := by exact_mod_cast one_pos.ne'
  rw [value_eq finite nonneg, size, Nat.cast_mul, mul_div_cancel_right₀ _ positive]

theorem isBelowZero_eq_false_iff (finite : number.isFinite = true) :
    number.isBelowZero = false ↔ 0 ≤ number.value := by
  refine ⟨fun nonneg => ?_, fun nonneg => ?_⟩
  · rw [value_eq finite nonneg]
    positivity
  · rw [← Bool.not_eq_true]
    intro below
    simp only [isBelowZero, Bool.and_eq_true, bne_iff_ne] at below
    have positive : 0 < (number.units : ℚ) := by
      exact_mod_cast Nat.pos_of_ne_zero (mt units_eq_zero_iff.mp below.1.2)
    have size : (0 : ℚ) < one := by exact_mod_cast one_pos
    have quotient : 0 < (number.units : ℚ) / one := div_pos positive size
    rw [value, if_pos below.1.1] at nonneg
    linarith

theorem isAboveZero_iff (finite : number.isFinite = true) :
    number.isAboveZero = true ↔ 0 < number.value := by
  have notNaN : number.isNaN = false := by
    simp only [isNaN, isFinite, decide_eq_true_eq, decide_eq_false_iff_not] at finite ⊢
    omega
  have size : (0 : ℚ) < one := by exact_mod_cast one_pos
  cases sign : number.negative with
  | false =>
      have positive : 0 < (number.units : ℚ) / one ↔ number.magnitude ≠ 0 := by
        rw [div_pos_iff_of_pos_right size, Nat.cast_pos, Nat.pos_iff_ne_zero, Ne,
          units_eq_zero_iff]
      rw [value, sign, if_neg Bool.false_ne_true, one_mul, positive]
      simp [isAboveZero, sign, notNaN]
  | true =>
      have nonneg : 0 ≤ (number.units : ℚ) / one := div_nonneg (Nat.cast_nonneg _) size.le
      rw [value, sign, if_pos rfl, neg_one_mul]
      simp only [isAboveZero, sign, Bool.not_true, Bool.false_and, Bool.false_eq_true, false_iff,
        not_lt]
      exact neg_nonpos.mpr nonneg

end Binary32

end TileMatch
