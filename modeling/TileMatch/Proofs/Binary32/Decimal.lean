import Mathlib.Data.Nat.Digits.Defs
import TileMatch.Binary32.Decimal
import TileMatch.Proofs.Binary32

/-!
# Reading back the shortest decimal form

A number of units that is a magnitude's own is not rounded to another magnitude, whatever the
fraction that it is given as. So the exact decimal form reads back, and since every shorter form
has been read back before it is taken, nothing is lost by writing a finite number. Nor does it
matter whether zeros that end a whole number are among its digits or in its power of ten.
-/

namespace TileMatch

/-! ## Digits -/

namespace Decimal

theorem isDigit_of_mem_digitsOf {number : ℕ} {c : Char} (mem : c ∈ digitsOf number) :
    c.isDigit = true :=
  Nat.isDigit_of_mem_toDigits (by decide) (by decide) mem

theorem digitsOf_ne_nil (number : ℕ) : digitsOf number ≠ [] := Nat.toDigits_ne_nil

theorem digitsValue_digitsOf (number : ℕ) : digitsValue (digitsOf number) = number :=
  Nat.ofDigitChars_toDigits (by decide) (by decide)

theorem digitsValue_append (first second : List Char) :
    digitsValue (first ++ second) = Nat.ofDigitChars 10 second (digitsValue first) :=
  Nat.ofDigitChars_append ..

theorem digitsValue_zeros_append (zeros : ℕ) (digits : List Char) :
    digitsValue (List.replicate zeros '0' ++ digits) = digitsValue digits := by
  have noValue : digitsValue (List.replicate zeros '0') = 10 ^ zeros * 0 :=
    Nat.ofDigitChars_replicate_zero
  rw [digitsValue_append, noValue, Nat.mul_zero]
  rfl

theorem digitsValue_append_zeros (digits : List Char) (zeros : ℕ) :
    digitsValue (digits ++ List.replicate zeros '0') = digitsValue digits * 10 ^ zeros := by
  rw [digitsValue_append, Nat.ofDigitChars_replicate_zero, Nat.mul_comm]

/-- Multiplying by ten puts a zero behind the digits. -/
theorem digitsOf_mul_pow {number : ℕ} (positive : 0 < number) (zeros : ℕ) :
    digitsOf (number * 10 ^ zeros) = digitsOf number ++ List.replicate zeros '0' := by
  induction zeros with
  | zero => rw [Nat.pow_zero, Nat.mul_one, List.replicate_zero, List.append_nil]
  | succ zeros hypothesis =>
      have last := Nat.toDigits_append_toDigits (b := 10) (d := 0) (by decide)
        (Nat.mul_pos positive (Nat.pow_pos (n := zeros) (by decide : 0 < 10))) (by decide)
      have moved : number * 10 ^ (zeros + 1) = 10 * (number * 10 ^ zeros) + 0 := by
        rw [Nat.pow_succ, Nat.add_zero, ← Nat.mul_assoc, Nat.mul_comm]
      rw [moved, digitsOf, ← last, ← digitsOf, hypothesis, List.replicate_succ', List.append_assoc]
      rfl

end Decimal

/-! ## The shortest form -/

namespace Binary32

theorem log2_unitsOf_add (exponent : ℕ) {place : ℕ} (below : place < binade) :
    (unitsOf ((exponent + 1) * binade + place)).log2 = 23 + exponent := by
  have spacing : 0 < 2 ^ exponent := Nat.two_pow_pos _
  have nonzero : (binade + place) * 2 ^ exponent ≠ 0 :=
    (Nat.mul_pos (Nat.add_pos_left (by decide) _) spacing).ne'
  have lower : 2 ^ 23 * 2 ^ exponent ≤ (binade + place) * 2 ^ exponent :=
    Nat.mul_le_mul_right _ (Nat.le_add_right _ _)
  have upper : (binade + place) * 2 ^ exponent < 2 ^ 24 * 2 ^ exponent :=
    Nat.mul_lt_mul_of_pos_right (Nat.add_lt_add_left below _) spacing
  rw [unitsOf_add exponent below, Nat.log2_eq_iff nonzero, Nat.pow_add, Nat.add_right_comm,
    Nat.pow_add]
  exact ⟨lower, upper⟩

/-- The units of a magnitude are nearest to that magnitude. -/
theorem nearest_unitsOf_mul {magnitude factor : ℕ} (finite : magnitude < infinity)
    (positive : 0 < factor) : nearest (unitsOf magnitude * factor) factor = magnitude := by
  rw [nearest, Nat.mul_div_cancel _ positive]
  -- The spacing that is taken for the size is that of the binade, so that no bit is cut off.
  rcases magnitude_cases magnitude with small | ⟨exponent, place, below, rfl⟩
  · have shift : (unitsOf magnitude).log2 - 23 = 0 := by
      rw [unitsOf_of_lt_binade small]
      rcases Nat.eq_zero_or_pos magnitude with rfl | nonzero
      · decide
      · have digits : magnitude.log2 < 23 := (Nat.log2_lt nonzero.ne').mpr small
        omega
    rw [shift, Nat.shiftLeft_zero, roundedQuotient_mul_left _ positive,
      unitsOf_of_lt_binade small, Nat.zero_mul, Nat.zero_add, Nat.min_eq_right finite.le]
  · have shift : (unitsOf ((exponent + 1) * binade + place)).log2 - 23 = exponent := by
      rw [log2_unitsOf_add exponent below, Nat.add_sub_cancel_left]
    have scaled : (binade + place) * 2 ^ exponent * factor =
        (binade + place) * (factor <<< exponent) := by
      rw [Nat.shiftLeft_eq, Nat.mul_assoc, Nat.mul_comm factor]
    have spacing : 0 < factor <<< exponent := by
      rw [Nat.shiftLeft_eq]
      exact Nat.mul_pos positive (Nat.two_pow_pos _)
    have together : exponent * binade + (binade + place) = (exponent + 1) * binade + place := by
      rw [Nat.succ_mul, Nat.add_assoc]
    rw [shift, unitsOf_add exponent below, scaled, roundedQuotient_mul_left _ spacing, together,
      Nat.min_eq_right finite.le]

theorem lt_length_digitsOf {coefficient digits : ℕ} (large : 10 ^ digits ≤ coefficient)
    (positive : 0 < digits) : digits < (Decimal.digitsOf coefficient).length := by
  rw [← Nat.not_le, Decimal.digitsOf, Nat.length_toDigits_le_iff (by decide) positive, Nat.not_lt]
  exact large

theorem nearestDecimal_exactForm {magnitude : ℕ} (finite : magnitude < infinity)
    (nonzero : magnitude ≠ 0) :
    nearestDecimal (exactForm (unitsOf magnitude)).1 (exactForm (unitsOf magnitude)).2 =
      magnitude := by
  have least : 1 ≤ unitsOf magnitude := unitsOf_strictMono (Nat.pos_of_ne_zero nonzero)
  have greatest : unitsOf magnitude < 2 ^ 277 :=
    (unitsOf_strictMono finite).trans_eq (by decide +kernel)
  have lower : 10 ^ 88 ≤ unitsOf magnitude * Nat.pow 5 149 :=
    Nat.le_trans (by decide +kernel) (Nat.le_mul_of_pos_left (Nat.pow 5 149) least)
  have upper : unitsOf magnitude * Nat.pow 5 149 < 10 ^ 188 :=
    (Nat.mul_lt_mul_of_pos_right greatest (by decide +kernel)).trans (by decide +kernel)
  -- So many digits and the power of ten are within the range where the power is worked out.
  have many := lt_length_digitsOf lower (by decide)
  have few : (Decimal.digitsOf (unitsOf magnitude * Nat.pow 5 149)).length ≤ 188 :=
    (Nat.length_toDigits_le_iff (by decide) (by decide)).mpr upper
  have nonzeroCoefficient : unitsOf magnitude * Nat.pow 5 149 ≠ 0 :=
    (lower.trans_lt' (by decide)).ne'
  have tenth : Nat.pow 5 149 * one = Nat.pow 10 149 := by decide +kernel
  change nearestDecimal (unitsOf magnitude * Nat.pow 5 149) (-149) = magnitude
  rw [nearestDecimal, if_neg (by omega), if_neg (by omega), if_neg (by decide), Nat.mul_assoc,
    tenth]
  exact nearest_unitsOf_mul finite (by decide +kernel)

/-- A form with a given number of digits is only taken when it reads back. -/
theorem nearestDecimal_of_formWith? {magnitude digits : ℕ} {form : ℕ × ℤ}
    (taken : formWith? magnitude digits = some form) :
    nearestDecimal form.1 form.2 = magnitude := by
  simp only [formWith?] at taken
  have readBack : (nearestDecimal form.1 form.2 == magnitude) = true :=
    @List.find?_some _ (fun form : ℕ × ℤ => nearestDecimal form.1 form.2 == magnitude) _ _ taken
  exact beq_iff_eq.mp readBack

theorem shortest_negative (number : Binary32) : number.shortest.negative = number.negative := by
  rw [Binary32.shortest]
  split <;> rfl

theorem ofDecimal_shortest {number : Binary32} (finite : number.isFinite = true) :
    ofDecimal number.shortest = number := by
  suffices sameSize : (ofDecimal number.shortest).magnitude = number.magnitude by
    have sameSign : (ofDecimal number.shortest).negative = number.negative :=
      number.shortest_negative
    cases number
    simp_all [ofDecimal]
  rw [ofDecimal, shortest]
  split
  case isTrue zero => simp [nearestDecimal, zero]
  case isFalse nonzero =>
    cases found : (List.range' 1 9).findSome? (formWith? number.magnitude) with
    | some form =>
        obtain ⟨digits, _, taken⟩ := List.exists_of_findSome?_eq_some found
        exact nearestDecimal_of_formWith? taken
    | none => exact nearestDecimal_exactForm (of_decide_eq_true finite) nonzero

/-! ## Powers of ten -/

theorem nearest_mul_mul (numerator denominator : ℕ) {factor : ℕ} (positive : 0 < factor) :
    nearest (numerator * factor) (denominator * factor) = nearest numerator denominator := by
  have shifted : ∀ shift, (denominator * factor) <<< shift = denominator <<< shift * factor := by
    intro shift
    rw [Nat.shiftLeft_eq, Nat.shiftLeft_eq, Nat.mul_right_comm]
  simp only [nearest, Nat.mul_div_mul_right _ _ positive, shifted,
    roundedQuotient_mul_mul _ _ positive]

/-- A whole number may be written with a zero behind the point. -/
theorem nearestDecimal_mul_pow (coefficient exponent : ℕ) :
    nearestDecimal (coefficient * 10 ^ (exponent + 1)) (-1) =
      nearestDecimal coefficient exponent := by
  rcases Nat.eq_zero_or_pos coefficient with rfl | positive
  · rw [Nat.zero_mul, nearestDecimal, nearestDecimal, if_pos (.inl rfl), if_pos (.inl rfl)]
  have nonzero : coefficient * 10 ^ (exponent + 1) ≠ 0 :=
    (Nat.mul_pos positive (Nat.pow_pos (by decide))).ne'
  have size : ((Decimal.digitsOf (coefficient * 10 ^ (exponent + 1))).length : ℤ) + -1 =
      (Decimal.digitsOf coefficient).length + exponent := by
    rw [Decimal.digitsOf_mul_pow positive, List.length_append, List.length_replicate]
    omega
  have tenfold : coefficient * 10 ^ (exponent + 1) * one =
      coefficient * Nat.pow 10 exponent * one * 10 := by
    rw [Nat.pow_succ, ← Nat.mul_assoc, Nat.mul_right_comm, Nat.pow_eq]
  have tenth : Nat.pow 10 (-(-1 : ℤ)).toNat = 1 * 10 := rfl
  have below : ¬(0 : ℤ) ≤ -1 := by decide
  have whole : (0 : ℤ) ≤ exponent := Int.natCast_nonneg exponent
  simp only [nearestDecimal, size, nonzero, positive.ne', false_or]
  rw [if_neg below, if_pos whole, tenfold, tenth, Int.toNat_natCast,
    nearest_mul_mul _ _ (by decide)]

end Binary32

end TileMatch
