import TileMatch.Log.Pattern.Reader

/-!
# Fields that a directive asks for

A directive may ask for a field by its name alone, or for a value too: a number or whatever matches
a pattern.
-/

namespace TileMatch

namespace Log

/-- Whether a text is a number without a sign: a whole or decimal one, infinite or undefined. -/
def isNumber (text : List Char) : Bool :=
  let whole := text.takeWhile Char.isDigit
  let rest := text.dropWhile Char.isDigit
  let (fraction, rest) := match rest with
    | '.' :: rest => (rest.takeWhile Char.isDigit, rest.dropWhile Char.isDigit)
    | rest => ([], rest)
  let power := match rest with
    | 'e' :: power => some power
    | 'E' :: power => some power
    | _ => none
  let digits := match power with
    | some ('+' :: digits) => some digits
    | some ('-' :: digits) => some digits
    | power => power
  String.ofList (text.map Char.toLower) ∈ ["inf", "infinity", "nan"] ||
    (!(whole.isEmpty && fraction.isEmpty) &&
      digits.elim rest.isEmpty fun digits => !digits.isEmpty && digits.all Char.isDigit)

/-- Whether a text is a pattern that may be used. -/
def isPattern (text : List Char) : Bool := (Pattern.ofText? text).any Pattern.mayBeUsed

/-- Whether a text may be asked for as the value of a field: a number, which may have a plus sign,
or a pattern. -/
def isFieldValue : List Char → Bool
  | '+' :: number => isNumber number
  | text => isPattern text

/-- A field that a record has to have. -/
structure FieldTest where
  name : String
  /-- Whether the field has to have a value of its own. -/
  hasValue : Bool
  deriving DecidableEq, Repr

/-- The field that a text asks for. A value ends at an equals sign. -/
def FieldTest.ofText? (text : List Char) : Option FieldTest :=
  let (name, rest) := text.span (· != '=')
  match rest with
  | [] => some ⟨String.ofList name, false⟩
  | _ :: rest =>
    if isFieldValue (rest.takeWhile (· != '=')) then some ⟨String.ofList name, true⟩ else none

end Log

end TileMatch
