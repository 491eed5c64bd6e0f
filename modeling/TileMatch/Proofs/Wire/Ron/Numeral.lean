import Mathlib.Data.List.TakeWhile
import TileMatch.Proofs.Binary32.Decimal
import TileMatch.Wire.Ron.Form

/-!
# Reading back integers

The text of an integer is a numeral that stands for it, in whatever width it is wanted. So are the
hexadecimal digits that a character is escaped with.
-/

namespace TileMatch

theorem takeWhile_append_of_head? {α : Type} {wanted : α → Bool} {front rest : List α}
    (inside : ∀ entry ∈ front, wanted entry = true)
    (outside : ∀ entry ∈ rest.head?, wanted entry = false) :
    (front ++ rest).takeWhile wanted = front := by
  rw [List.takeWhile_append_of_pos inside]
  cases rest with
  | nil => rw [List.takeWhile_nil, List.append_nil]
  | cons entry rest =>
      rw [List.takeWhile_cons_of_neg (by simp [outside entry rfl]), List.append_nil]

theorem dropWhile_append_of_head? {α : Type} {wanted : α → Bool} {front rest : List α}
    (inside : ∀ entry ∈ front, wanted entry = true)
    (outside : ∀ entry ∈ rest.head?, wanted entry = false) :
    (front ++ rest).dropWhile wanted = rest := by
  rw [List.dropWhile_append_of_pos inside]
  cases rest with
  | nil => rfl
  | cons entry rest => rw [List.dropWhile_cons_of_neg (by simp [outside entry rfl])]

/-! ## Digits -/

/-- The digits of a number in a base are built up from the first one. -/
theorem toDigits_induction {base : ℕ} (valid : 1 < base) {motive : ℕ → List Char → Prop}
    (single : ∀ digit < base, motive digit [digit.digitChar])
    (snoc : ∀ value digits, ∀ digit < base, motive value digits →
      motive (base * value + digit) (digits ++ [digit.digitChar]))
    (number : ℕ) : motive number (Nat.toDigits base number) := by
  induction number using Nat.strongRecOn with
  | ind number hypothesis =>
      rcases Nat.lt_or_ge number base with small | large
      · rw [Nat.toDigits_of_lt_base small]
        exact single number small
      · have smaller : number / base < number :=
          Nat.div_lt_self (Nat.zero_lt_of_lt (Nat.lt_of_lt_of_le valid large)) valid
        have positive : 0 < number / base := Nat.div_pos large (Nat.zero_lt_of_lt valid)
        have last : number % base < base := Nat.mod_lt _ (Nat.zero_lt_of_lt valid)
        have split := Nat.toDigits_append_toDigits valid positive last
        have built := snoc _ _ _ last (hypothesis _ smaller)
        rw [Nat.div_add_mod] at split built
        rwa [← split, Nat.toDigits_of_lt_base last]

/-- What adds a digit behind those that it has read reads back a number in its base. -/
theorem foldlM_toDigits {base : ℕ} {step : ℕ → Char → Option ℕ} (valid : 1 < base)
    (adds : ∀ value, ∀ digit < base, step value digit.digitChar = some (base * value + digit))
    (number : ℕ) : (Nat.toDigits base number).foldlM step 0 = some number := by
  refine @toDigits_induction base valid
    (fun number digits => digits.foldlM step 0 = some number) ?_ ?_ number
  · intro digit below
    simp [adds 0 digit below]
  · intro value digits digit below read
    rw [List.foldlM_append, read]
    simp [adds value digit below]

theorem exists_digit_of_mem_toDigits {base number : ℕ} (valid : 1 < base) {c : Char}
    (mem : c ∈ Nat.toDigits base number) : ∃ digit < base, c = digit.digitChar := by
  revert mem
  refine @toDigits_induction base valid
    (fun _ digits => c ∈ digits → ∃ digit < base, c = digit.digitChar) ?_ ?_ number
  · exact fun digit below mem => ⟨digit, below, List.mem_singleton.mp mem⟩
  · intro value digits digit below earlier mem
    rcases List.mem_append.mp mem with mem | mem
    · exact earlier mem
    · exact ⟨digit, below, List.mem_singleton.mp mem⟩

namespace Wire.Ron

theorem hexDigit?_digitChar : ∀ digit < 16, Json.hexDigit? digit.digitChar = some digit := by
  decide

theorem hexValue?_hexDigits (number : ℕ) : Json.hexValue? (hexDigits number) = some number :=
  foldlM_toDigits (by decide)
    (fun value digit below => by rw [hexDigit?_digitChar digit below, Option.map_some]) number

theorem digitsValue?_digitsOf (number : ℕ) :
    digitsValue? 10 (Decimal.digitsOf number) = some number := by
  have nonempty : (Decimal.digitsOf number).isEmpty = false :=
    List.isEmpty_eq_false_iff.mpr (Decimal.digitsOf_ne_nil number)
  have noUnderscore : ∀ c ∈ Decimal.digitsOf number, c ≠ '_' := by
    rintro _ mem rfl
    exact absurd (Decimal.isDigit_of_mem_digitsOf mem) (by decide)
  have head : ((Decimal.digitsOf number).head? == some '_') = false :=
    beq_eq_false_iff_ne.mpr fun first =>
      noUnderscore '_' (List.mem_of_head? first) rfl
  have kept : (Decimal.digitsOf number).filter (· != '_') = Decimal.digitsOf number :=
    List.filter_eq_self.mpr fun c mem => bne_iff_ne.mpr (noUnderscore c mem)
  rw [digitsValue?, nonempty, head, Bool.or_false, if_neg Bool.false_ne_true, kept]
  refine foldlM_toDigits (by decide) (fun value digit below => ?_) number
  rw [hexDigit?_digitChar digit (below.trans (by decide)), Option.bind_some, if_pos below]

/-! ## Integers -/

/-- The sign that is written before a number. -/
def sign (negative : Bool) : List Char := if negative then ['-'] else []

theorem eq_of_mem_sign {negative : Bool} {c : Char} (mem : c ∈ sign negative) : c = '-' := by
  cases negative with
  | true => exact List.mem_singleton.mp mem
  | false => contradiction

theorem splitSign_sign (negative : Bool) {unsigned : List Char}
    (none : ∀ c ∈ unsigned.head?, c ≠ '+' ∧ c ≠ '-') :
    splitSign (sign negative ++ unsigned) = (negative, unsigned) := by
  cases negative with
  | true => rfl
  | false =>
      cases unsigned with
      | nil => rfl
      | cons c rest =>
          obtain ⟨notPlus, notMinus⟩ := none c rfl
          rw [sign, if_neg Bool.false_ne_true, List.nil_append, splitSign]
          · rintro _ ⟨⟩
            exact notPlus rfl
          · rintro _ ⟨⟩
            exact notMinus rfl

theorem toList_toString_int (number : ℤ) :
    (toString number).toList = sign (number < 0) ++ Decimal.digitsOf number.natAbs := by
  cases number <;> simp [toString, Int.repr, sign, Decimal.digitsOf]

theorem isIntegerPart_of_isDigit {c : Char} (isDigit : c.isDigit = true) :
    isIntegerPart c = true := by
  have between : '0' ≤ c ∧ c ≤ '9' := by
    rw [Char.isDigit, Bool.and_eq_true, decide_eq_true_iff, decide_eq_true_iff] at isDigit
    exact isDigit
  rw [isIntegerPart, Json.hexDigit?, if_pos between]
  rfl

theorem ne_sign_of_isDigit {c : Char} (isDigit : c.isDigit = true) : c ≠ '+' ∧ c ≠ '-' := by
  constructor <;> rintro rfl <;> exact absurd isDigit (by decide)

theorem head_ne_sign_of_isDigit {digits : List Char} (areDigits : ∀ c ∈ digits, c.isDigit = true) :
    ∀ c ∈ digits.head?, c ≠ '+' ∧ c ≠ '-' :=
  fun c first => ne_sign_of_isDigit (areDigits c (List.mem_of_head? first))

theorem splitBase_of_isDigit {digits : List Char} (areDigits : ∀ c ∈ digits, c.isDigit = true) :
    splitBase digits = (10, digits) := by
  have noMark : ∀ mark : Char, mark.isDigit = false → ∀ rest, digits ≠ '0' :: mark :: rest := by
    rintro mark noDigit rest rfl
    exact absurd (areDigits mark (by simp)) (by simp [noDigit])
  unfold splitBase
  split
  · exact absurd rfl (noMark 'b' rfl _)
  · exact absurd rfl (noMark 'o' rfl _)
  · exact absurd rfl (noMark 'x' rfl _)
  · rfl

/-- The digits of an integer are read as that integer, in whatever width. -/
theorem integerOf?_toString (width : Width) (number : ℤ) :
    integerOf? width (toString number).toList = some number := by
  have areDigits : ∀ c ∈ Decimal.digitsOf number.natAbs, c.isDigit = true :=
    fun c mem => Decimal.isDigit_of_mem_digitsOf mem
  have integers : ∀ c ∈ Decimal.digitsOf number.natAbs, isIntegerPart c = true :=
    fun c mem => isIntegerPart_of_isDigit (areDigits c mem)
  have signed : (if number < 0 then -(number.natAbs : ℤ) else number.natAbs) = number := by
    split <;> omega
  rw [toList_toString_int, integerOf?, integerParts?,
    splitSign_sign _ (head_ne_sign_of_isDigit areDigits)]
  simp only [splitBase_of_isDigit areDigits, List.takeWhile_eq_self_iff.mpr integers,
    List.dropWhile_eq_nil_iff.mpr integers, digitsValue?_digitsOf]
  simpa using signed

end Wire.Ron

end TileMatch
