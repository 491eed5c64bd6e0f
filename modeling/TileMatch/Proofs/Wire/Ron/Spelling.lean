import TileMatch.Proofs.Wire.Ron.Numeral

/-!
# Reading back numbers of single precision

A finite number is written in its shortest decimal form, with a point somewhere in its digits or
with an exponent. Neither changes what the form is rounded to, so that the number is read back.
`Spelling` is what both ways of writing have in common.
-/

namespace TileMatch.Wire.Ron

/-- A number without its sign: digits, digits behind a point, and a power of ten. -/
structure Spelling where
  whole : List Char
  fraction : List Char
  power : Option ℤ
  whole_ne_nil : whole ≠ []
  isDigit_of_mem : ∀ c ∈ whole ++ fraction, c.isDigit = true

namespace Spelling

/-- The point and the digits behind it, if there are any. -/
def fractionPart (spelling : Spelling) : List Char :=
  if spelling.fraction.isEmpty then [] else '.' :: spelling.fraction

/-- The power of ten, if there is one. -/
def powerPart (spelling : Spelling) : List Char :=
  spelling.power.elim [] fun power => 'e' :: (toString power).toList

/-- All characters. -/
def characters (spelling : Spelling) : List Char :=
  spelling.whole ++ (spelling.fractionPart ++ spelling.powerPart)

/-- The decimal form that is spelled, with a sign. -/
def decimal (spelling : Spelling) (negative : Bool) : Decimal :=
  ⟨negative, Decimal.digitsValue (spelling.whole ++ spelling.fraction),
    spelling.power.getD 0 - spelling.fraction.length⟩

variable (spelling : Spelling)

theorem isDigit_of_mem_whole {c : Char} (mem : c ∈ spelling.whole) : c.isDigit = true :=
  spelling.isDigit_of_mem c (List.mem_append_left _ mem)

theorem isDigit_of_mem_fraction {c : Char} (mem : c ∈ spelling.fraction) : c.isDigit = true :=
  spelling.isDigit_of_mem c (List.mem_append_right _ mem)

/-- A number begins with a digit. -/
theorem exists_cons : ∃ digit rest, digit.isDigit = true ∧
    spelling.characters = digit :: rest := by
  obtain ⟨digit, digits, split⟩ := List.exists_cons_of_ne_nil spelling.whole_ne_nil
  have mem : digit ∈ spelling.whole := by
    rw [split]
    exact List.mem_cons_self
  exact ⟨digit, _, spelling.isDigit_of_mem_whole mem, by rw [characters, split, List.cons_append]⟩

theorem digit_or_mark_of_mem_powerPart {c : Char} (mem : c ∈ spelling.powerPart) :
    c.isDigit = true ∨ c = 'e' ∨ c = '-' := by
  rw [powerPart] at mem
  cases written : spelling.power with
  | none =>
      rw [written] at mem
      contradiction
  | some power =>
      rw [written, Option.elim_some, toList_toString_int, List.mem_cons, List.mem_append] at mem
      rcases mem with rfl | mem | mem
      · exact .inr (.inl rfl)
      · exact .inr (.inr (eq_of_mem_sign mem))
      · exact .inl (Decimal.isDigit_of_mem_digitsOf mem)

/-- The characters of a number are digits and the marks between them. -/
theorem digit_or_mark_of_mem {negative : Bool} {c : Char}
    (mem : c ∈ sign negative ++ spelling.characters) :
    c.isDigit = true ∨ c = '.' ∨ c = 'e' ∨ c = '-' := by
  rw [characters, List.mem_append, List.mem_append, List.mem_append] at mem
  rcases mem with mem | mem | mem | mem
  · exact .inr (.inr (.inr (eq_of_mem_sign mem)))
  · exact .inl (spelling.isDigit_of_mem_whole mem)
  · rw [fractionPart] at mem
    split at mem
    · contradiction
    · rcases List.mem_cons.mp mem with rfl | mem
      · exact .inr (.inl rfl)
      · exact .inl (spelling.isDigit_of_mem_fraction mem)
  · rcases spelling.digit_or_mark_of_mem_powerPart mem with isDigit | mark
    · exact .inl isDigit
    · exact .inr (.inr mark)

theorem exponent?_powerPart :
    Json.exponent? spelling.powerPart = some (spelling.power, []) := by
  rw [powerPart]
  cases spelling.power with
  | none => rfl
  | some power =>
      have areDigits : ∀ c ∈ Decimal.digitsOf power.natAbs, c.isDigit = true :=
        fun c mem => Decimal.isDigit_of_mem_digitsOf mem
      have nonempty : (Decimal.digitsOf power.natAbs).isEmpty = false :=
        List.isEmpty_eq_false_iff.mpr (Decimal.digitsOf_ne_nil _)
      have signed : (if power < 0 then -(power.natAbs : ℤ) else power.natAbs) = power := by
        split <;> omega
      have opened : Json.exponent? ('e' :: (toString power).toList) =
          (let signed := splitSign (toString power).toList
            let digits := Json.digits signed.2
            if digits.1.isEmpty then none
            else
              let size := Decimal.digitsValue digits.1
              some (some (if signed.1 then -(size : ℤ) else size), digits.2)) := by
        rfl
      rw [Option.elim_some, opened, toList_toString_int,
        splitSign_sign _ (head_ne_sign_of_isDigit areDigits)]
      simp only [Json.digits, List.takeWhile_eq_self_iff.mpr areDigits,
        List.dropWhile_eq_nil_iff.mpr areDigits, nonempty, Decimal.digitsValue_digitsOf]
      simpa using signed

theorem eq_of_mem_head?_powerPart {c : Char} (first : c ∈ spelling.powerPart.head?) :
    c = 'e' := by
  rw [powerPart] at first
  cases written : spelling.power with
  | none =>
      rw [written] at first
      contradiction
  | some power =>
      rw [written] at first
      exact (Option.some.inj first).symm

/-- Neither a point nor a power of ten begins with a digit. -/
theorem isDigit_eq_false_of_mem_head? {c : Char}
    (first : c ∈ (spelling.fractionPart ++ spelling.powerPart).head?) : c.isDigit = false := by
  rw [fractionPart] at first
  split at first
  · rw [List.nil_append] at first
    rw [spelling.eq_of_mem_head?_powerPart first]
    rfl
  · obtain rfl : '.' = c := Option.some.inj first
    rfl

theorem digits_characters :
    Json.digits spelling.characters =
      (spelling.whole, spelling.fractionPart ++ spelling.powerPart) := by
  have inside : ∀ c ∈ spelling.whole, c.isDigit = true :=
    fun c mem => spelling.isDigit_of_mem_whole mem
  have outside : ∀ c ∈ (spelling.fractionPart ++ spelling.powerPart).head?, c.isDigit = false :=
    fun c first => spelling.isDigit_eq_false_of_mem_head? first
  rw [Json.digits, characters, takeWhile_append_of_head? inside outside,
    dropWhile_append_of_head? inside outside]

theorem digits_fraction :
    Json.digits (spelling.fraction ++ spelling.powerPart) =
      (spelling.fraction, spelling.powerPart) := by
  have inside : ∀ c ∈ spelling.fraction, c.isDigit = true :=
    fun c mem => spelling.isDigit_of_mem_fraction mem
  have outside : ∀ c ∈ spelling.powerPart.head?, c.isDigit = false := by
    intro c first
    rw [spelling.eq_of_mem_head?_powerPart first]
    rfl
  rw [Json.digits, takeWhile_append_of_head? inside outside,
    dropWhile_append_of_head? inside outside]

theorem splitSign_characters (negative : Bool) :
    splitSign (sign negative ++ spelling.characters) = (negative, spelling.characters) := by
  obtain ⟨digit, rest, isDigit, begins⟩ := spelling.exists_cons
  refine splitSign_sign negative fun c first => ?_
  rw [begins] at first
  obtain rfl : digit = c := Option.some.inj first
  exact ne_sign_of_isDigit isDigit

theorem decimal?_characters (negative : Bool) :
    decimal? (sign negative ++ spelling.characters) = some (spelling.decimal negative) := by
  have nonempty : spelling.whole.isEmpty = false :=
    List.isEmpty_eq_false_iff.mpr spelling.whole_ne_nil
  rw [decimal?, splitSign_characters]
  simp only [digits_characters]
  by_cases noFraction : spelling.fraction = []
  · have noPoint : ∀ rest, spelling.powerPart ≠ '.' :: rest := by
      intro rest eq
      exact absurd (spelling.eq_of_mem_head?_powerPart (by rw [eq]; rfl)) (by decide : '.' ≠ 'e')
    rw [fractionPart, noFraction, List.isEmpty_nil, if_pos rfl, List.nil_append]
    split
    · exact absurd ‹_› (noPoint _)
    · simp [nonempty, exponent?_powerPart, decimal, noFraction]
  · have point : spelling.fractionPart = '.' :: spelling.fraction := by
      rw [fractionPart, if_neg (by rwa [List.isEmpty_iff])]
    simp [point, nonempty, digits_fraction, exponent?_powerPart, decimal]

end Spelling

theorem isPointedPart_of_isDigit {c : Char} (isDigit : c.isDigit = true) :
    isPointedPart c = true := by
  simp [isPointedPart, isDigit]

theorem isNumeralPart_of_isDigit {c : Char} (isDigit : c.isDigit = true) :
    isNumeralPart c = true := by
  simp [isNumeralPart, Char.isAlphanum, isDigit]

theorem withoutUnderscores?_of_none {characters : List Char} (none : '_' ∉ characters) :
    ∀ allowed, withoutUnderscores? allowed characters = some characters := by
  induction characters with
  | nil => exact fun allowed => rfl
  | cons c rest hypothesis =>
      intro allowed
      have other : c ≠ '_' := fun eq => none (List.mem_cons.mpr (.inl eq.symm))
      have others : '_' ∉ rest := fun mem => none (List.mem_cons_of_mem c mem)
      rw [withoutUnderscores?, if_neg other]
      exact congrArg (Option.map (c :: ·)) (hypothesis others _)

/-- The name of a number does not begin with a digit. -/
theorem namedNumber?_eq_none {digit : Char} {rest : List Char} (isDigit : digit.isDigit = true) :
    namedNumber? (String.ofList (digit :: rest)) = none := by
  have other : ∀ c name, c.isDigit = false →
      String.ofList (digit :: rest) ≠ String.ofList (c :: name) := by
    intro c name noDigit eq
    obtain rfl : digit = c := (List.cons.inj (String.ofList_injective eq)).1
    rw [isDigit] at noDigit
    contradiction
  rw [namedNumber?, if_neg (other 'i' ['n', 'f'] rfl), if_neg (other 'N' ['a', 'N'] rfl)]

namespace Spelling

variable (spelling : Spelling) (negative : Bool)

theorem pointedParts?_characters :
    pointedParts? (sign negative ++ spelling.characters) =
      some (Binary32.ofDecimal (spelling.decimal negative), []) := by
  have inside : ∀ c ∈ sign negative ++ spelling.characters, isPointedPart c = true := by
    intro c mem
    rcases spelling.digit_or_mark_of_mem mem with isDigit | rfl | rfl | rfl
    · exact isPointedPart_of_isDigit isDigit
    all_goals rfl
  have noUnderscore : '_' ∉ sign negative ++ spelling.characters := by
    intro mem
    have oneOf := spelling.digit_or_mark_of_mem mem
    revert oneOf
    decide
  have noName : namedNumber? (String.ofList (spelling.characters.take 3)) = none := by
    obtain ⟨digit, rest, isDigit, begins⟩ := spelling.exists_cons
    rw [begins]
    exact namedNumber?_eq_none isDigit
  rw [pointedParts?, splitSign_characters]
  simp [noName, List.takeWhile_eq_self_iff.mpr inside, List.dropWhile_eq_nil_iff.mpr inside,
    withoutUnderscores?_of_none noUnderscore, decimal?_characters]

theorem singleOf?_characters :
    singleOf? (sign negative ++ spelling.characters) =
      some (Binary32.ofDecimal (spelling.decimal negative)) := by
  rw [singleOf?, pointedParts?_characters]
  rfl

theorem isNumeral_characters : isNumeral (sign negative ++ spelling.characters) = true := by
  rw [isNumeral, isPointed, pointedParts?_characters]
  simp

end Spelling

theorem splitNumeral_append {front : List Char} (rest : List Char)
    (inside : ∀ c ∈ front, isNumeralPart c = true ∧ c ≠ '.') :
    splitNumeral (front ++ rest) =
      (front ++ (splitNumeral rest).1, (splitNumeral rest).2) := by
  induction front with
  | nil => rfl
  | cons c front hypothesis =>
      obtain ⟨isPart, noPoint⟩ := inside c List.mem_cons_self
      rw [List.cons_append, splitNumeral,
        hypothesis fun other mem => inside other (List.mem_cons_of_mem c mem), if_pos isPart]
      · rfl
      · exact fun _ eq _ => noPoint eq

theorem splitNumeral_point {c : Char} (rest : List Char) (noPoint : c ≠ '.') :
    splitNumeral ('.' :: c :: rest) =
      ('.' :: (splitNumeral (c :: rest)).1, (splitNumeral (c :: rest)).2) := by
  rw [splitNumeral, if_pos (by decide)]
  exact fun _ _ eq => noPoint (List.cons.inj eq).1

theorem splitNumeral_of_head? {rest : List Char}
    (ends : ∀ c ∈ rest.head?, isNumeralPart c = false) : splitNumeral rest = ([], rest) := by
  cases rest with
  | nil => rfl
  | cons c rest =>
      have noPart : isNumeralPart c = false := ends c rfl
      rw [splitNumeral, if_neg (by rw [noPart]; exact Bool.false_ne_true)]
      rintro _ ⟨⟩
      exact absurd noPart (by decide)

namespace Spelling

variable (spelling : Spelling) (negative : Bool)

theorem splitNumeral_characters {rest : List Char}
    (ends : ∀ c ∈ rest.head?, isNumeralPart c = false) :
    splitNumeral (sign negative ++ spelling.characters ++ rest) =
      (sign negative ++ spelling.characters, rest) := by
  have digits : ∀ c : Char, c.isDigit = true → isNumeralPart c = true ∧ c ≠ '.' := by
    intro c isDigit
    refine ⟨isNumeralPart_of_isDigit isDigit, ?_⟩
    rintro rfl
    exact absurd isDigit (by decide)
  have front : ∀ c ∈ sign negative ++ spelling.whole, isNumeralPart c = true ∧ c ≠ '.' := by
    intro c mem
    rcases List.mem_append.mp mem with mem | mem
    · rw [eq_of_mem_sign mem]
      decide
    · exact digits c (spelling.isDigit_of_mem_whole mem)
  have last : ∀ c ∈ spelling.powerPart, isNumeralPart c = true ∧ c ≠ '.' := by
    intro c mem
    rcases spelling.digit_or_mark_of_mem_powerPart mem with isDigit | rfl | rfl
    · exact digits c isDigit
    all_goals decide
  have middle : splitNumeral (spelling.fractionPart ++ (spelling.powerPart ++ rest)) =
      (spelling.fractionPart ++ spelling.powerPart, rest) := by
    cases written : spelling.fraction with
    | nil =>
        rw [fractionPart, written, List.isEmpty_nil, if_pos rfl, List.nil_append, List.nil_append,
          splitNumeral_append _ last, splitNumeral_of_head? ends, List.append_nil]
    | cons digit more =>
        have areDigits : ∀ c ∈ digit :: more, isNumeralPart c = true ∧ c ≠ '.' := by
          intro c mem
          rw [← written] at mem
          exact digits c (spelling.isDigit_of_mem_fraction mem)
        -- A point is taken apart from the digits: with a second one behind it, it would be a range.
        have first := splitNumeral_point (more ++ (spelling.powerPart ++ rest))
          (areDigits digit List.mem_cons_self).2
        rw [← List.cons_append, splitNumeral_append _ areDigits, splitNumeral_append _ last,
          splitNumeral_of_head? ends, List.append_nil] at first
        rw [fractionPart, written, List.isEmpty_cons, if_neg Bool.false_ne_true]
        exact first
  rw [characters, List.append_assoc, List.append_assoc, List.append_assoc, ← List.append_assoc,
    splitNumeral_append _ front, middle, List.append_assoc]

end Spelling

/-! ## The numbers that are written -/

/-- An integer has no point and no power of ten. -/
def Spelling.ofNat (number : ℕ) : Spelling where
  whole := Decimal.digitsOf number
  fraction := []
  power := none
  whole_ne_nil := Decimal.digitsOf_ne_nil number
  isDigit_of_mem := by
    intro c mem
    rw [List.append_nil] at mem
    exact Decimal.isDigit_of_mem_digitsOf mem

theorem toList_toString_eq_spelling (number : ℤ) :
    (toString number).toList =
      sign (number < 0) ++ (Spelling.ofNat number.natAbs).characters := by
  rw [toList_toString_int, Spelling.characters]
  simp [Spelling.ofNat, Spelling.fractionPart, Spelling.powerPart]

/-- Digits with a point before the last ones. -/
def Spelling.pointed (digits : List Char) (places : ℕ) (enough : places < digits.length)
    (areDigits : ∀ c ∈ digits, c.isDigit = true) : Spelling where
  whole := digits.take (digits.length - places)
  fraction := digits.drop (digits.length - places)
  power := none
  whole_ne_nil := by
    rw [← List.length_pos_iff_ne_nil, List.length_take]
    omega
  isDigit_of_mem := by
    rwa [List.take_append_drop]

theorem Spelling.characters_pointed {digits : List Char} {places : ℕ}
    (positive : 0 < places) (enough : places < digits.length)
    (areDigits : ∀ c ∈ digits, c.isDigit = true) :
    (pointed digits places enough areDigits).characters =
      digits.take (digits.length - places) ++ '.' :: digits.drop (digits.length - places) := by
  have some : (digits.drop (digits.length - places)).isEmpty = false := by
    rw [List.isEmpty_eq_false_iff, ← List.length_pos_iff_ne_nil, List.length_drop]
    omega
  simp [characters, fractionPart, powerPart, pointed, some]

theorem Spelling.decimal_pointed {digits : List Char} {places : ℕ}
    (enough : places < digits.length) (areDigits : ∀ c ∈ digits, c.isDigit = true)
    (negative : Bool) :
    (pointed digits places enough areDigits).decimal negative =
      ⟨negative, Decimal.digitsValue digits, -places⟩ := by
  have length : (digits.drop (digits.length - places)).length = places := by
    rw [List.length_drop]
    omega
  simp only [decimal, pointed, List.take_append_drop, length, Option.getD_none, Int.zero_sub]

theorem isDigit_of_mem_zeros_append {zeros coefficient : ℕ} {c : Char}
    (mem : c ∈ List.replicate zeros '0' ++ Decimal.digitsOf coefficient) : c.isDigit = true := by
  rcases List.mem_append.mp mem with mem | mem
  · rw [List.eq_of_mem_replicate mem]
    rfl
  · exact Decimal.isDigit_of_mem_digitsOf mem

/-- What is written positionally is rounded as the digits and the power of ten are. -/
theorem exists_spelling_positionalText (coefficient : ℕ) (exponent : ℤ) :
    ∃ spelling : Spelling,
      Binary32.positionalText (Decimal.digitsOf coefficient) exponent = spelling.characters ∧
      ∀ negative, Binary32.ofDecimal (spelling.decimal negative) =
        Binary32.ofDecimal ⟨negative, coefficient, exponent⟩ := by
  rcases lt_or_ge exponent 0 with below | notBelow
  · obtain ⟨places, rfl⟩ : ∃ places : ℕ, exponent = -places := ⟨exponent.natAbs, by omega⟩
    have positive : 0 < places := by omega
    have enough : places < (List.replicate (places + 1 - (Decimal.digitsOf coefficient).length) '0'
        ++ Decimal.digitsOf coefficient).length := by
      rw [List.length_append, List.length_replicate]
      omega
    refine ⟨.pointed _ places enough fun c mem => isDigit_of_mem_zeros_append mem, ?_,
      fun negative => ?_⟩
    · rw [Spelling.characters_pointed positive, Binary32.positionalText,
        if_neg (Int.not_le.mpr below), Int.neg_neg, Int.toNat_natCast]
    · rw [Spelling.decimal_pointed, Decimal.digitsValue_zeros_append,
        Decimal.digitsValue_digitsOf]
  · obtain ⟨zeros, rfl⟩ := Int.eq_ofNat_of_zero_le notBelow
    have enough : 1 < (Decimal.digitsOf coefficient ++ List.replicate (zeros + 1) '0').length := by
      have some := List.length_pos_iff_ne_nil.mpr (Decimal.digitsOf_ne_nil coefficient)
      rw [List.length_append, List.length_replicate]
      omega
    -- Behind the last zero there is a point and one zero more, which changes no rounding.
    refine ⟨.pointed _ 1 enough fun c mem =>
      isDigit_of_mem_zeros_append (List.mem_append.mpr (List.mem_append.mp mem).symm), ?_,
      fun negative => ?_⟩
    · have last : (Decimal.digitsOf coefficient ++ List.replicate (zeros + 1) '0').length - 1 =
          (Decimal.digitsOf coefficient ++ List.replicate zeros '0').length := by
        simp only [List.length_append, List.length_replicate]
        omega
      rw [Spelling.characters_pointed Nat.one_pos, Binary32.positionalText, if_pos notBelow, last,
        List.replicate_succ', ← List.append_assoc, List.take_left, List.drop_left,
        Int.toNat_natCast]
    · rw [Spelling.decimal_pointed, Decimal.digitsValue_append_zeros,
        Decimal.digitsValue_digitsOf]
      simp only [Binary32.ofDecimal]
      congr 1
      exact Binary32.nearestDecimal_mul_pow coefficient zeros

/-- What is written with an exponent is rounded as the digits and the power of ten are. -/
theorem exists_spelling_exponentText (coefficient : ℕ) (exponent : ℤ) :
    ∃ spelling : Spelling,
      Binary32.exponentText (Decimal.digitsOf coefficient) exponent = spelling.characters ∧
      ∀ negative, Binary32.ofDecimal (spelling.decimal negative) =
        Binary32.ofDecimal ⟨negative, coefficient, exponent⟩ := by
  refine ⟨⟨(Decimal.digitsOf coefficient).take 1, (Decimal.digitsOf coefficient).drop 1,
    some (exponent + ((Decimal.digitsOf coefficient).drop 1).length), ?_, ?_⟩, ?_,
    fun negative => ?_⟩
  · obtain ⟨digit, rest, split⟩ := List.exists_cons_of_ne_nil (Decimal.digitsOf_ne_nil coefficient)
    rw [split, List.take_succ_cons]
    exact List.cons_ne_nil digit _
  · rw [List.take_append_drop]
    exact fun c mem => Decimal.isDigit_of_mem_digitsOf mem
  · rw [Binary32.exponentText, Spelling.characters, List.append_assoc]
    rfl
  · simp only [Spelling.decimal, List.take_append_drop, Decimal.digitsValue_digitsOf,
      Option.getD_some, Int.add_sub_cancel]

/-- A finite number is spelled so that it is read back. -/
theorem exists_spelling_text {number : Binary32} (finite : number.isFinite = true) :
    ∃ spelling : Spelling,
      number.text.toList = sign number.negative ++ spelling.characters ∧
      Binary32.ofDecimal (spelling.decimal number.negative) = number := by
  have defined : number.isNaN = false := by
    rw [Binary32.isFinite, decide_eq_true_iff] at finite
    rw [Binary32.isNaN, decide_eq_false_iff_not]
    exact Nat.not_lt.mpr finite.le
  have readBack : Binary32.ofDecimal
      ⟨number.negative, number.shortest.coefficient, number.shortest.exponent⟩ = number := by
    rw [← Binary32.shortest_negative]
    exact Binary32.ofDecimal_shortest finite
  obtain ⟨spelling, written, rounds⟩ : ∃ spelling : Spelling,
      (if number.magnitude = 0 ∨ Binary32.nearestDecimal 1 (-4) ≤ number.magnitude ∧
          number.magnitude < Binary32.nearestDecimal 1 16
        then Binary32.positionalText (Decimal.digitsOf number.shortest.coefficient)
          number.shortest.exponent
        else Binary32.exponentText (Decimal.digitsOf number.shortest.coefficient)
          number.shortest.exponent) = spelling.characters ∧
      ∀ negative, Binary32.ofDecimal (spelling.decimal negative) =
        Binary32.ofDecimal ⟨negative, number.shortest.coefficient, number.shortest.exponent⟩ := by
    split
    · exact exists_spelling_positionalText _ _
    · exact exists_spelling_exponentText _ _
  refine ⟨spelling, ?_, (rounds _).trans readBack⟩
  simp only [Binary32.text, defined, finite, Bool.not_true, Bool.false_eq_true, if_false]
  rw [String.toList_ofList, written]
  rfl

/-- The infinite number with a sign. -/
def infinite (negative : Bool) : Binary32 := ⟨negative, Binary32.infinity, by decide⟩

/-- What is not finite has a name, of which the infinite number below zero has its sign apart. -/
theorem text_cases (number : Binary32) :
    number.isNaN = true ∧ number.text = "NaN" ∨
    number = infinite false ∧ number.text = "inf" ∨
    number = infinite true ∧ number.text = "-inf" ∨
    ∃ spelling : Spelling,
      number.text.toList = sign number.negative ++ spelling.characters ∧
      Binary32.ofDecimal (spelling.decimal number.negative) = number := by
  by_cases undefined : number.isNaN = true
  · exact .inl ⟨undefined, by rw [Binary32.text, if_pos undefined]⟩
  refine .inr ?_
  by_cases finite : number.isFinite = true
  · exact .inr (.inr (exists_spelling_text finite))
  obtain ⟨negative, magnitude, below⟩ := number
  obtain rfl : magnitude = Binary32.infinity := by
    rw [Binary32.isFinite, decide_eq_true_iff] at finite
    rw [Binary32.isNaN, decide_eq_true_iff] at undefined
    exact Nat.le_antisymm (Nat.le_of_not_lt undefined) (Nat.le_of_not_lt finite)
  cases negative with
  | false => exact .inl ⟨rfl, rfl⟩
  | true => exact .inr (.inl ⟨rfl, rfl⟩)

/-- A number of single precision is read back from its text; of what is undefined it stays known
only that it is. -/
theorem singleOf?_text (number : Binary32) :
    ∃ read, singleOf? number.text.toList = some read ∧
      (read = number ∨ read.isNaN = true ∧ number.isNaN = true) := by
  rcases text_cases number with ⟨undefined, written⟩ | ⟨rfl, written⟩ | ⟨rfl, written⟩ |
    ⟨spelling, written, rounded⟩
  · rw [written]
    exact ⟨.ofBits (Binary32.infinity + 0x400000), rfl, .inr ⟨by decide, undefined⟩⟩
  · rw [written]
    exact ⟨infinite false, rfl, .inl rfl⟩
  · rw [written]
    exact ⟨infinite true, rfl, .inl rfl⟩
  · rw [written, Spelling.singleOf?_characters, rounded]
    exact ⟨number, rfl, .inl rfl⟩

end TileMatch.Wire.Ron
