import TileMatch.Proofs.Wire.Ron.Spelling

/-!
# Cutting written texts into tokens

A text that was written from a value is cut where its parts were put together. `Cuts` says into
which tokens a text is cut, whatever bounds its length, and a text is built up from its end: a
separator and the characters of one token in front of a text that is cut already.
-/

namespace TileMatch.Wire.Ron

/-- A text is cut into tokens, also with spaces before it. -/
def Cuts (characters : List Char) (tokens : List Token) : Prop :=
  ∀ spaces, (∀ c ∈ spaces, isSpace c = true) → ∀ bound, (spaces ++ characters).length < bound →
    tokensWithin bound (spaces ++ characters) = some tokens

/-- Characters are the first token of a text that goes on behind them. -/
def Begins (piece rest : List Char) (token : Token) : Prop :=
  ∀ bound, (piece ++ rest).length < bound → token? bound (piece ++ rest) = some (token, rest)

/-- A text starts with a token and not with what separates tokens. -/
def IsSolid (characters : List Char) : Prop :=
  ∃ c rest, characters = c :: rest ∧ isSpace c = false ∧ c ≠ '/'

/-- A text ends or goes on with a mark that belongs to no name and no numeral. -/
def EndsToken (rest : List Char) : Prop := ∀ c ∈ rest.head?, c = ',' ∨ c = ':'

/-- Characters are one token wherever a token may end behind them. -/
structure IsPiece (characters : List Char) (token : Token) : Prop where
  solid : IsSolid characters
  begins : ∀ rest, EndsToken rest → Begins characters rest token

theorem afterSpace?_cons {c : Char} (bound : ℕ) (rest : List Char) (noSlash : c ≠ '/') :
    afterSpace? (bound + 1) (c :: rest) =
      if isSpace c then afterSpace? bound rest else some (c :: rest) := by
  conv_lhs => unfold afterSpace?
  split
  · exact absurd (List.cons.inj ‹_›).1 noSlash
  · exact absurd (List.cons.inj ‹_›).1 noSlash
  · exact absurd (List.cons.inj ‹_›).1 noSlash
  · rename_i bounds eq
    obtain rfl := Nat.succ.inj bounds
    obtain ⟨rfl, rfl⟩ := List.cons.inj eq
    rfl
  · rename_i other
    exact absurd rfl (other _ _ _ rfl)

theorem afterSpace?_append {spaces rest : List Char} {bound : ℕ}
    (blank : ∀ c ∈ spaces, isSpace c = true) (solid : rest = [] ∨ IsSolid rest)
    (enough : spaces.length < bound) : afterSpace? bound (spaces ++ rest) = some rest := by
  induction spaces generalizing bound with
  | nil =>
      obtain ⟨bound, rfl⟩ := Nat.exists_eq_add_one_of_ne_zero (Nat.ne_zero_of_lt enough)
      rcases solid with rfl | ⟨c, rest, rfl, noSpace, noSlash⟩
      · rfl
      · rw [List.nil_append, afterSpace?_cons bound rest noSlash, noSpace,
          if_neg Bool.false_ne_true]
  | cons c spaces hypothesis =>
      obtain ⟨bound, rfl⟩ := Nat.exists_eq_add_one_of_ne_zero (Nat.ne_zero_of_lt enough)
      have isBlank : isSpace c = true := blank c List.mem_cons_self
      have noSlash : c ≠ '/' := by
        rintro rfl
        exact absurd isBlank (by decide)
      rw [List.cons_append, afterSpace?_cons bound _ noSlash, if_pos isBlank]
      exact hypothesis (fun other mem => blank other (List.mem_cons_of_mem c mem))
        (Nat.lt_of_succ_lt_succ enough)

theorem afterSpace?_of_isSolid {rest : List Char} {bound : ℕ} (solid : IsSolid rest)
    (positive : 0 < bound) : afterSpace? bound rest = some rest := by
  have skipped := @afterSpace?_append [] rest bound
  exact skipped (fun _ mem => absurd mem List.not_mem_nil) (.inr solid) positive

theorem IsSolid.append {piece : List Char} (solid : IsSolid piece) (rest : List Char) :
    IsSolid (piece ++ rest) := by
  obtain ⟨c, characters, rfl, noSpace, noSlash⟩ := solid
  exact ⟨c, characters ++ rest, rfl, noSpace, noSlash⟩

theorem Cuts.tokensWithin {characters : List Char} {tokens : List Token}
    (cuts : Cuts characters tokens) {bound : ℕ} (enough : characters.length < bound) :
    Ron.tokensWithin bound characters = some tokens :=
  cuts [] (fun _ mem => absurd mem List.not_mem_nil) bound enough

theorem Cuts.tokens? {characters : List Char} {tokens : List Token}
    (cuts : Cuts characters tokens) : tokens? characters = some tokens :=
  cuts.tokensWithin (Nat.lt_succ_self _)

theorem Cuts.nil : Cuts [] [] := by
  intro spaces blank bound enough
  obtain ⟨bound, rfl⟩ := Nat.exists_eq_add_one_of_ne_zero (Nat.ne_zero_of_lt enough)
  rw [List.append_nil] at enough
  rw [Ron.tokensWithin, afterSpace?_append blank (.inl rfl) enough]
  rfl

theorem Cuts.spaces {spaces characters : List Char} {tokens : List Token}
    (blank : ∀ c ∈ spaces, isSpace c = true) (cuts : Cuts characters tokens) :
    Cuts (spaces ++ characters) tokens := by
  intro before blankBefore
  rw [← List.append_assoc]
  exact cuts (before ++ spaces) fun c mem =>
    (List.mem_append.mp mem).elim (blankBefore c) (blank c)

theorem Cuts.cons {piece rest : List Char} {token : Token} {tokens : List Token}
    (solid : IsSolid piece) (first : Begins piece rest token) (more : Cuts rest tokens) :
    Cuts (piece ++ rest) (token :: tokens) := by
  intro spaces blank bound enough
  obtain ⟨bound, rfl⟩ := Nat.exists_eq_add_one_of_ne_zero (Nat.ne_zero_of_lt enough)
  have positive : 0 < piece.length := by
    obtain ⟨c, characters, rfl, _⟩ := solid
    exact Nat.succ_pos _
  simp only [List.length_append] at enough
  have nonempty : (piece ++ rest).isEmpty = false := by
    rw [List.isEmpty_eq_false_iff, ← List.length_pos_iff_ne_nil, List.length_append]
    omega
  have cut : token? (bound + 1) (piece ++ rest) = some (token, rest) :=
    first _ (by rw [List.length_append]; omega)
  have remaining : Ron.tokensWithin bound rest = some tokens := more.tokensWithin (by omega)
  rw [Ron.tokensWithin, afterSpace?_append blank (.inr (solid.append rest)) (by omega),
    Option.bind_some, nonempty, if_neg Bool.false_ne_true, cut, Option.bind_some, remaining,
    Option.map_some]

/-! ## Marks -/

theorem begins_mark {c : Char} (isMark : c = ')' ∨ c = ',' ∨ c = ':') (rest : List Char) :
    Begins [c] rest (.mark c) := by
  intro bound _
  rcases isMark with rfl | rfl | rfl <;> rfl

/-! ## Texts -/

theorem hexDigits_ne_brace {number : ℕ} {c : Char} (mem : c ∈ hexDigits number) :
    (c != '\x7d') = true := by
  have others : ∀ digit < 16, (digit.digitChar != '\x7d') = true := by decide
  obtain ⟨digit, below, rfl⟩ := exists_digit_of_mem_toDigits (by decide) mem
  exact others digit below

theorem unicodeEscape?_hexDigits (c : Char) (rest : List Char) :
    unicodeEscape? (hexDigits c.toNat ++ '\x7d' :: rest) = some (c, rest) := by
  have inside : ∀ other ∈ hexDigits c.toNat, (other != '\x7d') = true :=
    fun other mem => hexDigits_ne_brace mem
  have outside : ∀ other ∈ ('\x7d' :: rest).head?, (other != '\x7d') = false := by
    intro other first
    obtain rfl : '\x7d' = other := Option.some.inj first
    rfl
  have nonempty : (hexDigits c.toNat).isEmpty = false :=
    List.isEmpty_eq_false_iff.mpr Nat.toDigits_ne_nil
  have valid : c.toNat.isValidChar := c.valid
  have few : ¬6 < (hexDigits c.toNat).length := by
    rw [Nat.not_lt, hexDigits, Nat.length_toDigits_le_iff (by decide) (by decide)]
    rcases valid with below | ⟨_, below⟩ <;> omega
  simp only [unicodeEscape?, takeWhile_append_of_head? inside outside,
    dropWhile_append_of_head? inside outside, nonempty, few, hexValue?_hexDigits]
  simp [valid]

theorem quotedWithin_escapeChar (bound : ℕ) (c : Char) (rest : List Char) :
    quotedWithin (bound + 1) (escapeChar c ++ rest) =
      (quotedWithin bound rest).map fun result => (c :: result.1, result.2) := by
  rw [escapeChar]
  split_ifs with null tab carriage line special printable
  · subst null
    rfl
  · subst tab
    rfl
  · subst carriage
    rfl
  · subst line
    rfl
  · rcases special with rfl | rfl | rfl <;> rfl
  · obtain ⟨noQuote, others⟩ := not_or.mp special
    obtain ⟨_, noBackslash⟩ := not_or.mp others
    simp [quotedWithin, noQuote, noBackslash]
  · simp [quotedWithin, continued?, escape?, unicodeEscape?_hexDigits]

theorem quotedWithin_escaped {content : List Char} {bound : ℕ} (rest : List Char)
    (enough : content.length < bound) :
    quotedWithin bound (content.flatMap escapeChar ++ '"' :: rest) = some (content, rest) := by
  induction content generalizing bound with
  | nil =>
      obtain ⟨bound, rfl⟩ := Nat.exists_eq_add_one_of_ne_zero (Nat.ne_zero_of_lt enough)
      rfl
  | cons c content hypothesis =>
      obtain ⟨bound, rfl⟩ := Nat.exists_eq_add_one_of_ne_zero (Nat.ne_zero_of_lt enough)
      rw [List.flatMap_cons, List.append_assoc, quotedWithin_escapeChar,
        hypothesis (Nat.lt_of_succ_lt_succ enough), Option.map_some]

theorem length_le_flatMap_escapeChar (content : List Char) :
    content.length ≤ (content.flatMap escapeChar).length := by
  induction content with
  | nil => exact Nat.le_refl 0
  | cons c content hypothesis =>
      have some : 0 < (escapeChar c).length := by
        rw [escapeChar]
        split_ifs <;> exact Nat.succ_pos _
      rw [List.flatMap_cons, List.length_append, List.length_cons]
      omega

/-- A text literal is read as what was quoted. -/
theorem isPiece_quote (content : String) : IsPiece (quote content).toList (.text content) := by
  refine ⟨⟨'"', content.toList.flatMap escapeChar ++ ['"'], ?_, rfl, by decide⟩,
    fun rest _ bound enough => ?_⟩
  · rw [quote, String.toList_ofList, List.cons_append]
  have shorter := length_le_flatMap_escapeChar content.toList
  have written : (quote content).toList ++ rest =
      '"' :: (content.toList.flatMap escapeChar ++ '"' :: rest) := by
    rw [quote, String.toList_ofList, List.append_assoc, List.cons_append, List.cons_append,
      List.nil_append]
  rw [written, List.length_cons, List.length_append] at enough
  have opened : ∀ characters, token? bound ('"' :: characters) =
      (quotedWithin bound characters).map
        fun result => (.text (String.ofList result.1), result.2) := fun _ => rfl
  rw [written, opened, quotedWithin_escaped rest (by omega), Option.map_some,
    String.ofList_toList]

/-! ## Names -/

/-- The characters of a name. -/
structure IsName (name : String) : Prop where
  start : ∃ c rest, name.toList = c :: rest ∧ Text.isNameStart c = true
  part : ∀ c ∈ name.toList, Text.isNamePart c = true

/-- A name with what ends it has no other character behind characters of a name. -/
theorem EndsToken.ne_append {name rest : List Char} (ends : EndsToken rest)
    (parts : ∀ c ∈ name, Text.isNamePart c = true) (front : List Char)
    (inside : front.all Text.isNamePart = true) {other : Char}
    (outside : ¬(Text.isNamePart other = true ∨ other = ',' ∨ other = ':')) (tail : List Char) :
    name ++ rest ≠ front ++ other :: tail := by
  have marks : ∀ c ∈ rest.head?, ¬Text.isNamePart c = true := by
    intro c first
    rcases ends c first with rfl | rfl <;> decide
  intro eq
  induction front generalizing name with
  | nil =>
      cases name with
      | nil =>
          rw [List.nil_append] at eq
          exact outside (.inr (ends other (by rw [eq]; rfl)))
      | cons c name =>
          obtain rfl : c = other := (List.cons.inj eq).1
          exact outside (.inl (parts c List.mem_cons_self))
  | cons c front hypothesis =>
      cases name with
      | nil =>
          rw [List.nil_append] at eq
          exact marks c (by rw [eq]; rfl) (Bool.and_eq_true_iff.mp inside).1
      | cons d name =>
          exact hypothesis (fun other mem => parts other (List.mem_cons_of_mem d mem))
            (Bool.and_eq_true_iff.mp inside).2 (List.cons.inj eq).2

theorem splitName_append {name : String} {rest : List Char} (isName : IsName name)
    (ends : EndsToken rest) : splitName (name.toList ++ rest) = (name, rest) := by
  have outside : ∀ c ∈ rest.head?, Text.isNamePart c = false := by
    intro c first
    rcases ends c first with rfl | rfl <;> rfl
  rw [splitName, takeWhile_append_of_head? isName.part outside,
    dropWhile_append_of_head? isName.part outside, String.ofList_toList]

theorem name?_append {name : String} {rest : List Char} (isName : IsName name)
    (ends : EndsToken rest) : name? (name.toList ++ rest) = some (.word name, rest) := by
  obtain ⟨c, characters, written, start⟩ := isName.start
  have split := splitName_append isName ends
  have unlike := fun front => ends.ne_append isName.part front
  rw [written, List.cons_append] at split unlike ⊢
  unfold name?
  split
  · contradiction
  · exact absurd ‹_› (unlike ['b'] rfl (by decide) _)
  · exact absurd ‹_› (unlike ['b'] rfl (by decide) _)
  · exact absurd ‹_› (unlike ['b', 'r'] rfl (by decide) _)
  · exact absurd ‹_› (unlike ['b', 'r'] rfl (by decide) _)
  · exact absurd ‹_› (unlike ['r'] rfl (by decide) _)
  · exact absurd ‹_› (unlike ['r'] rfl (by decide) _)
  · rename_i eq
    obtain ⟨rfl, rfl⟩ := List.cons.inj eq
    rw [if_pos start, split]

theorem afterRange?_of_endsToken {rest : List Char} (ends : EndsToken rest) :
    afterRange? rest = none := by
  cases rest with
  | nil => rfl
  | cons c rest => rcases ends c rfl with rfl | rfl <;> rfl

theorem numberOrRange?_of_number? {characters rest : List Char} {token : Token}
    (number : number? characters = some (token, rest)) (ends : EndsToken rest) :
    numberOrRange? characters = some (token, rest) := by
  simp only [numberOrRange?, number, Option.map_some, afterRange?_of_endsToken ends]

theorem number?_name {name : String} {rest : List Char} (isName : IsName name)
    (ends : EndsToken rest) :
    number? (name.toList ++ rest) =
      if name ∈ numberNames then some (.word name, rest) else none := by
  obtain ⟨c, characters, written, start⟩ := isName.start
  have split := splitName_append isName ends
  have unlike := fun front => ends.ne_append isName.part front
  rw [written, List.cons_append] at split unlike ⊢
  unfold number?
  split
  · contradiction
  · exact absurd ‹_› (unlike ['b'] rfl (by decide) _)
  · rename_i eq
    obtain ⟨rfl, rfl⟩ := List.cons.inj eq
    rw [if_pos start, split]

theorem isMark_eq_false {kind : Char → Bool} {c : Char} (isKind : kind c = true)
    (others : [')', '[', ']', '\x7b', '\x7d', ',', ':', '#', '!', '='].all (!kind ·) = true) :
    isMark c = false := by
  rw [Bool.eq_false_iff]
  intro isMark
  simp only [Ron.isMark, Bool.or_eq_true, beq_iff_eq, or_assoc] at isMark
  have otherKind := List.all_eq_true.mp others c (by simpa using isMark)
  rw [isKind] at otherKind
  contradiction

theorem isSpace_eq_false {kind : Char → Bool} {c : Char} (isKind : kind c = true)
    (others : [' ', '\t', '\n', '\r', '\x0b', '\x0c', '\u0085', '\u200e', '\u200f', '\u2028',
      '\u2029'].all (!kind ·) = true) : isSpace c = false := by
  rw [Bool.eq_false_iff]
  intro isSpace
  simp only [Ron.isSpace, Bool.or_eq_true, beq_iff_eq, or_assoc] at isSpace
  have otherKind := List.all_eq_true.mp others c (by simpa using isSpace)
  rw [isKind] at otherKind
  contradiction

theorem IsName.isSolid {name : String} (isName : IsName name) : IsSolid name.toList := by
  obtain ⟨c, rest, written, start⟩ := isName.start
  refine ⟨c, rest, written, ?_, ?_⟩
  · exact isSpace_eq_false start (by decide +kernel)
  · rintro rfl
    exact absurd start (by decide)

/-- A name is a word, also if it stands for a number. -/
theorem IsName.isPiece {name : String} (isName : IsName name) :
    IsPiece name.toList (.word name) := by
  refine ⟨isName.isSolid, fun rest ends bound _ => ?_⟩
  have number := number?_name isName ends
  have word := name?_append isName ends
  obtain ⟨c, characters, written, start⟩ := isName.start
  have unlike := fun front => ends.ne_append isName.part front
  have noMark : isMark c = false := isMark_eq_false start (by decide +kernel)
  -- Names are tried as numbers first, and some of them are, but that makes no other token of them.
  have read : (numberOrRange? (name.toList ++ rest)).or (name? (name.toList ++ rest)) =
      some (.word name, rest) := by
    by_cases named : name ∈ numberNames
    · rw [if_pos named] at number
      rw [numberOrRange?_of_number? number ends, Option.some_or]
    · rw [if_neg named] at number
      rw [numberOrRange?, number, Option.map_none, Option.none_or, word]
  rw [written, List.cons_append] at read unlike ⊢
  unfold token?
  split
  · contradiction
  · exact absurd ‹_› (unlike [] rfl (by decide) _)
  · exact absurd ‹_› (unlike [] rfl (by decide) _)
  · exact absurd ‹_› (unlike ['b'] rfl (by decide) _)
  · exact absurd ‹_› (unlike ['b'] rfl (by decide) _)
  · exact absurd ‹_› (unlike ['b', 'r'] rfl (by decide) _)
  · exact absurd ‹_› (unlike ['b', 'r'] rfl (by decide) _)
  · exact absurd ‹_› (unlike [] rfl (by decide) _)
  · exact absurd ‹_› (unlike [] rfl (by decide) _)
  · exact absurd ‹_› (unlike [] rfl (by decide) _)
  · rename_i eq
    rw [← eq]
    obtain ⟨rfl, _⟩ := List.cons.inj eq
    rw [noMark, if_neg Bool.false_ne_true, read]
    rfl

/-! ## Numerals -/

theorem isNameStart_eq_false_of_isDigit {c : Char} (isDigit : c.isDigit = true) :
    Text.isNameStart c = false := by
  have digits : ∀ code, code < 58 → 48 ≤ code → Text.isNameStart (Char.ofNat code) = false := by
    decide
  rw [Char.isDigit, Bool.and_eq_true, decide_eq_true_iff, decide_eq_true_iff] at isDigit
  rw [← Char.ofNat_toNat c]
  exact digits c.toNat (Nat.lt_succ_of_le isDigit.2) isDigit.1

/-- A numeral is a token. -/
theorem begins_numeral {c : Char} {numeral rest : List Char}
    (start : c.isDigit = true ∨ c = '-') (ends : EndsToken rest)
    (split : splitNumeral (c :: numeral ++ rest) = (c :: numeral, rest))
    (isNumeral : isNumeral (c :: numeral) = true) :
    Begins (c :: numeral) rest (.numeral (c :: numeral)) := by
  intro bound _
  have unlike : ∀ other : Char, ¬(other.isDigit = true ∨ other = '-') → c ≠ other := by
    rintro _ outside rfl
    exact outside start
  have noStart : Text.isNameStart c = false := by
    rcases start with isDigit | rfl
    · exact isNameStart_eq_false_of_isDigit isDigit
    · rfl
  have noMark : isMark c = false :=
    @isMark_eq_false (fun c => c.isDigit || c == '-') c (by simpa using start) (by decide)
  have number : number? (c :: numeral ++ rest) = some (.numeral (c :: numeral), rest) := by
    rw [List.cons_append] at split ⊢
    unfold number?
    split
    · contradiction
    · exact absurd (List.cons.inj ‹_›).1 (unlike 'b' (by decide))
    · rename_i eq
      obtain ⟨rfl, rfl⟩ := List.cons.inj eq
      rw [noStart, if_neg Bool.false_ne_true, split]
      exact if_pos isNumeral
  have read := numberOrRange?_of_number? number ends
  rw [List.cons_append] at read ⊢
  unfold token?
  split
  · contradiction
  · exact absurd (List.cons.inj ‹_›).1 (unlike '"' (by decide))
  · exact absurd (List.cons.inj ‹_›).1 (unlike '\'' (by decide))
  · exact absurd (List.cons.inj ‹_›).1 (unlike 'b' (by decide))
  · exact absurd (List.cons.inj ‹_›).1 (unlike 'b' (by decide))
  · exact absurd (List.cons.inj ‹_›).1 (unlike 'b' (by decide))
  · exact absurd (List.cons.inj ‹_›).1 (unlike 'b' (by decide))
  · exact absurd (List.cons.inj ‹_›).1 (unlike '(' (by decide))
  · exact absurd (List.cons.inj ‹_›).1 (unlike '(' (by decide))
  · exact absurd (List.cons.inj ‹_›).1 (unlike '.' (by decide))
  · rename_i eq
    rw [← eq]
    obtain ⟨rfl, _⟩ := List.cons.inj eq
    rw [noMark, if_neg Bool.false_ne_true, read]
    rfl

theorem isSolid_of_start {c : Char} (start : c.isDigit = true ∨ c = '-') (rest : List Char) :
    IsSolid (c :: rest) := by
  refine ⟨c, rest, rfl, ?_, ?_⟩
  · exact @isSpace_eq_false (fun c => c.isDigit || c == '-') c (by simpa using start) (by decide)
  · rintro rfl
    exact absurd start (by decide)

theorem isPiece_of_start {c : Char} {numeral : List Char} (start : c.isDigit = true ∨ c = '-')
    (isNumeral : isNumeral (c :: numeral) = true)
    (split : ∀ rest : List Char, (∀ c ∈ rest.head?, isNumeralPart c = false) →
      splitNumeral (c :: numeral ++ rest) = (c :: numeral, rest)) :
    IsPiece (c :: numeral) (.numeral (c :: numeral)) := by
  refine ⟨isSolid_of_start start numeral, fun rest ends => ?_⟩
  refine begins_numeral start ends (split rest fun c first => ?_) isNumeral
  rcases ends c first with rfl | rfl <;> rfl

theorem Spelling.exists_start (spelling : Spelling) (negative : Bool) :
    ∃ c numeral, (c.isDigit = true ∨ c = '-') ∧
      sign negative ++ spelling.characters = c :: numeral := by
  obtain ⟨digit, rest, isDigit, begins⟩ := spelling.exists_cons
  cases negative with
  | true => exact ⟨'-', spelling.characters, .inr rfl, rfl⟩
  | false => exact ⟨digit, rest, .inl isDigit, by rw [begins]; rfl⟩

theorem Spelling.isPiece (spelling : Spelling) (negative : Bool) :
    IsPiece (sign negative ++ spelling.characters)
      (.numeral (sign negative ++ spelling.characters)) := by
  obtain ⟨c, numeral, start, written⟩ := spelling.exists_start negative
  have isNumeral := spelling.isNumeral_characters negative
  have split := fun rest ends => @splitNumeral_characters spelling negative rest ends
  rw [written] at isNumeral split ⊢
  exact isPiece_of_start start isNumeral split

theorem isPiece_toString (number : ℤ) :
    IsPiece (toString number).toList (.numeral (toString number).toList) := by
  rw [toList_toString_eq_spelling]
  exact Spelling.isPiece _ _

/-- The token that a number of single precision is written as. -/
def singleToken (number : Binary32) : Token :=
  if number.text ∈ numberNames then .word number.text else .numeral number.text.toList

/-- A finite number is a numeral, and so is the infinite one below zero; the others have names. -/
theorem isPiece_text (number : Binary32) : IsPiece number.text.toList (singleToken number) := by
  rcases text_cases number with ⟨_, written⟩ | ⟨_, written⟩ | ⟨_, written⟩ | ⟨spelling, written, _⟩
  · rw [singleToken, written, if_pos (by decide)]
    exact IsName.isPiece ⟨⟨'N', ['a', 'N'], rfl, rfl⟩, List.all_eq_true.mp rfl⟩
  · rw [singleToken, written, if_pos (by decide)]
    exact IsName.isPiece ⟨⟨'i', ['n', 'f'], rfl, rfl⟩, List.all_eq_true.mp rfl⟩
  · have characters : "-inf".toList = ['-', 'i', 'n', 'f'] := rfl
    rw [singleToken, written, if_neg (by decide), characters]
    refine isPiece_of_start (.inr rfl) rfl fun rest ends => ?_
    have every : ['-', 'i', 'n', 'f'].all (fun c => isNumeralPart c && c != '.') = true := rfl
    have inside : ∀ c ∈ ['-', 'i', 'n', 'f'], isNumeralPart c = true ∧ c ≠ '.' :=
      fun c mem => by simpa using List.all_eq_true.mp every c mem
    rw [splitNumeral_append rest inside, splitNumeral_of_head? ends, List.append_nil]
  · have noName : number.text ∉ numberNames := by
      intro named
      have letters : ∀ name ∈ numberNames,
          name.toList.head?.all (fun c => !(c.isDigit || c == '-')) = true := by decide
      obtain ⟨c, numeral, start, begins⟩ := spelling.exists_start number.negative
      have letter := letters _ named
      rw [written, begins, List.head?_cons, Option.all_some] at letter
      rcases start with isDigit | rfl
      · rw [isDigit] at letter
        contradiction
      · contradiction
    rw [singleToken, if_neg noName, written]
    exact spelling.isPiece number.negative

/-! ## Opening parentheses -/

theorem contents?_named {spaces : List Char} {name : String} {rest : List Char} {bound : ℕ}
    (blank : ∀ c ∈ spaces, isSpace c = true) (isName : IsName name)
    (enough : (spaces ++ (name.toList ++ ':' :: rest)).length < bound) :
    contents? bound (spaces ++ (name.toList ++ ':' :: rest)) = some .named := by
  have colon : IsSolid (':' :: rest) := ⟨':', rest, rfl, rfl, by decide⟩
  have ends : EndsToken (':' :: rest) := by
    intro c first
    exact .inr (Option.some.inj first).symm
  rw [List.length_append] at enough
  rw [contents?, afterSpace?_append blank (.inr (isName.isSolid.append _)) (by omega),
    Option.bind_some, name?_append isName ends]
  simp only [afterSpace?_of_isSolid colon (Nat.zero_lt_of_lt enough), Option.bind_some]
  exact if_pos rfl

theorem contents?_empty {spaces rest : List Char} {bound : ℕ}
    (blank : ∀ c ∈ spaces, isSpace c = true)
    (enough : (spaces ++ ')' :: rest).length < bound) :
    contents? bound (spaces ++ ')' :: rest) = some .one := by
  have closing : IsSolid (')' :: rest) := ⟨')', rest, rfl, rfl, by decide⟩
  rw [List.length_append] at enough
  obtain ⟨bound, rfl⟩ := Nat.exists_eq_add_one_of_ne_zero (Nat.ne_zero_of_lt enough)
  have noName : name? (')' :: rest) = none := rfl
  have contents : contentsWithin (bound + 1) 1 (')' :: rest) = some .one := by
    have closed : contentsWithin bound 0 rest = some .one := by rw [contentsWithin]
    rw [contentsWithin, afterSpace?_of_isSolid closing (Nat.succ_pos bound), Option.bind_some]
    exact closed
  rw [contents?, afterSpace?_append blank (.inr closing) (by omega), Option.bind_some, noName]
  exact contents

/-- A parenthesis at the end of a line opens what its contents seem to be. -/
theorem begins_opening {rest : List Char} {contents : Option Contents}
    (seen : ∀ bound, ('\n' :: rest).length < bound → contents? bound ('\n' :: rest) = contents) :
    Begins ['('] ('\n' :: rest) (.opening contents) := by
  intro bound enough
  rw [← seen bound (Nat.lt_of_succ_lt enough)]
  rfl

end TileMatch.Wire.Ron
