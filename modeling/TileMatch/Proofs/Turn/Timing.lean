import Mathlib.Tactic.NormNum
import TileMatch.Proofs.Binary32
import TileMatch.Turn.Timing

/-!
# Spans of time from numbers of seconds

A finite number of seconds that is not below zero is rounded to a span, unless it is `2 ^ 64` or
more (`Duration.ofSingle?_eq_some_iff`). The limit is checked after rounding; it makes no
difference, because no number of single precision lies so close below `2 ^ 64` that it is rounded up
to it.
-/

namespace TileMatch

namespace Binary32

/-- The magnitude of `2 ^ 64`. -/
def tooLong : ℕ := 0x5f800000

theorem unitsOf_tooLong : unitsOf tooLong = 2 ^ 64 * one := by decide +kernel

theorem value_lt_iff {number : Binary32} (finite : number.isFinite = true)
    (nonneg : number.isBelowZero = false) : number.value < 2 ^ 64 ↔ number.magnitude < tooLong := by
  have size : (0 : ℚ) < one := by exact_mod_cast one_pos
  rw [value_eq finite nonneg, div_lt_iff₀ size, ← unitsOf_strictMono.lt_iff_lt, unitsOf_tooLong]
  exact_mod_cast Iff.rfl

end Binary32

namespace Duration

open Binary32

/-- The nanoseconds of a magnitude of seconds, rounded. -/
def nanoseconds (magnitude : ℕ) : Duration := roundedQuotient (unitsOf magnitude * second) one

theorem nanoseconds_mono : Monotone nanoseconds := by
  intro less more order
  refine roundedQuotient_mono Binary32.one_pos Binary32.one_pos ?_
  gcongr
  exact unitsOf_strictMono.monotone order

theorem nanoseconds_lt_limit_iff {magnitude : ℕ} :
    nanoseconds magnitude < limit ↔ magnitude < tooLong := by
  have least : nanoseconds tooLong = limit := by decide +kernel
  have greatest : nanoseconds (tooLong - 1) < limit := by decide +kernel
  constructor
  · intro short
    by_contra long
    have order := nanoseconds_mono (Nat.le_of_not_lt long)
    rw [least] at order
    exact absurd short (Nat.not_lt_of_le order)
  · intro short
    exact Nat.lt_of_le_of_lt (nanoseconds_mono (Nat.le_pred_of_lt short)) greatest

variable {seconds : Binary32}

theorem nanoseconds_rounds (finite : seconds.isFinite = true)
    (nonneg : seconds.isBelowZero = false) :
    Rounds (seconds.value * second) (nanoseconds seconds.magnitude) := by
  have quotient : seconds.value * second = (seconds.units * second : ℕ) / (one : ℚ) := by
    rw [value_eq finite nonneg, Nat.cast_mul, div_mul_eq_mul_div]
  rw [quotient]
  exact roundedQuotient_rounds _ Binary32.one_pos

/-- A number of seconds has a span if it is below `2 ^ 64`, and then it is the nearest one. -/
theorem ofSingle?_eq_some_iff (finite : seconds.isFinite = true)
    (nonneg : seconds.isBelowZero = false) {span : Duration} :
    ofSingle? seconds = some span ↔
      seconds.value < 2 ^ 64 ∧ Rounds (seconds.value * second) span := by
  have usable : ¬(seconds.isBelowZero || !seconds.isFinite) = true := by simp [finite, nonneg]
  have rounds := nanoseconds_rounds finite nonneg
  rw [ofSingle?, if_neg usable, value_lt_iff finite nonneg, ← nanoseconds_lt_limit_iff]
  change (if nanoseconds seconds.magnitude < limit then some (nanoseconds seconds.magnitude)
    else none) = some span ↔ _
  split
  case isTrue short =>
    rw [Option.some.injEq]
    exact ⟨fun same => ⟨short, same ▸ rounds⟩, fun other => rounds.unique other.2⟩
  case isFalse long => simp [long]

end Duration

end TileMatch
