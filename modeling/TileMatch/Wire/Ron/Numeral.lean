import TileMatch.Binary32.Decimal
import TileMatch.Wire.Json
import TileMatch.Wire.Value

/-!
# RON numerals

A numeral is an unbroken run of letters, digits, points, signs and underscores. As an integer it has
an optional sign, an optional base mark and an optional width, as a number of single precision an
optional point, exponent and width. Underscores may follow digits.
-/

namespace TileMatch.Wire.Ron

/-- The suffix that names a width. -/
def widthSuffix : Width → String
  | .unsigned8 => "u8"
  | .unsigned16 => "u16"
  | .unsigned32 => "u32"
  | .unsigned64 => "u64"
  | .signed32 => "i32"
  | .signed64 => "i64"

/-- The bounds of the integers that a suffix admits. -/
def suffixBounds? (suffix : List Char) : Option (Int × Int) :=
  match String.ofList suffix with
  | "u8" => some (0, 0xff)
  | "u16" => some (0, 0xffff)
  | "u32" => some (0, 0xffffffff)
  | "u64" => some (0, 0xffffffffffffffff)
  | "i8" => some (-0x80, 0x7f)
  | "i16" => some (-0x8000, 0x7fff)
  | "i32" => some (-0x80000000, 0x7fffffff)
  | "i64" => some (-0x8000000000000000, 0x7fffffffffffffff)
  | _ => none

/-- Whether a numeral goes on with a character. -/
def isNumeralPart (c : Char) : Bool := c.isAlphanum || c == '_' || c == '.' || c == '+' || c == '-'

/-- The numeral at the start of a text, and what follows it. Two points in a row do not belong to
it. -/
def splitNumeral : List Char → List Char × List Char
  | [] => ([], [])
  | '.' :: '.' :: rest => ([], '.' :: '.' :: rest)
  | c :: rest =>
    if isNumeralPart c then
      let (numeral, rest) := splitNumeral rest
      (c :: numeral, rest)
    else ([], c :: rest)

/-- Whether a character may be a digit of an integer in some base. -/
def isIntegerPart (c : Char) : Bool := (Json.hexDigit? c).isSome || c == '_'

/-- Whether a character may be part of a number with a point. -/
def isPointedPart (c : Char) : Bool :=
  c.isDigit || c == 'e' || c == 'E' || c == '.' || c == '+' || c == '-' || c == '_'

/-- A sign, and the characters after it. -/
def splitSign : List Char → Bool × List Char
  | '+' :: rest => (false, rest)
  | '-' :: rest => (true, rest)
  | rest => (false, rest)

/-- The base that digits are written in, and the digits. -/
def splitBase : List Char → Nat × List Char
  | '0' :: 'b' :: rest => (2, rest)
  | '0' :: 'o' :: rest => (8, rest)
  | '0' :: 'x' :: rest => (16, rest)
  | rest => (10, rest)

/-- The value of digits in a base. Underscores count for nothing and may not come first. -/
def digitsValue? (base : Nat) (digits : List Char) : Option Nat :=
  if digits.isEmpty || digits.head? == some '_' then none
  else
    (digits.filter (· != '_')).foldlM (fun value digit =>
      (Json.hexDigit? digit).bind fun digit =>
        if digit < base then some (base * value + digit) else none) 0

/-- The integer of a numeral and its suffix, which follows the digits directly. -/
def integerParts? (numeral : List Char) : Option (Int × List Char) :=
  let (negative, unsigned) := splitSign numeral
  let (base, characters) := splitBase unsigned
  let suffix := characters.dropWhile isIntegerPart
  if suffix.isEmpty || (suffixBounds? suffix).isSome then
    (digitsValue? base (characters.takeWhile isIntegerPart)).map fun value =>
      (if negative then -(value : Int) else value, suffix)
  else none

/-- The integer of a numeral that is wanted in a width. A suffix has to name that width. -/
def integerOf? (width : Width) (numeral : List Char) : Option Int :=
  (integerParts? numeral).bind fun (value, suffix) =>
    if suffix.isEmpty || String.ofList suffix = widthSuffix width then some value else none

/-- Whether a numeral is an integer that fits its suffix, or 64 bits when it has none. -/
def isInteger (numeral : List Char) : Bool :=
  match integerParts? numeral with
  | none => false
  | some (value, suffix) =>
    let (least, greatest) := (suffixBounds? suffix).getD
      (-0x8000000000000000, 0xffffffffffffffff)
    least ≤ value && value ≤ greatest

/-- The characters of a number without its underscores. One may follow a digit, an exponent mark or
another underscore, but neither come first nor follow a point. -/
def withoutUnderscores? : Bool → List Char → Option (List Char)
  | _, [] => some []
  | allowed, c :: rest =>
    if c = '_' then if allowed then withoutUnderscores? true rest else none
    else
      let allowed := if c.isDigit || c == 'e' || c == 'E' then true
        else if c == '.' then false else allowed
      (withoutUnderscores? allowed rest).map (c :: ·)

/-- The number of a numeral without underscores and suffix. Digits may be missing on one side of the
point. -/
def decimal? (numeral : List Char) : Option Decimal :=
  let (negative, unsigned) := splitSign numeral
  let (whole, rest) := Json.digits unsigned
  let (fraction, rest) := match rest with
    | '.' :: rest => Json.digits rest
    | rest => ([], rest)
  if whole.isEmpty && fraction.isEmpty then none
  else
    match Json.exponent? rest with
    | some (exponent, []) =>
      some ⟨negative, Decimal.digitsValue (whole ++ fraction), exponent.getD 0 - fraction.length⟩
    | _ => none

/-- The numbers with a name, without sign and suffix. -/
def namedNumber? (name : String) : Option Nat :=
  if name = "inf" then some Binary32.infinity
  else if name = "NaN" then some (Binary32.infinity + 0x400000)
  else none

/-- The number of a numeral, and its suffix. -/
def pointedParts? (numeral : List Char) : Option (Binary32 × List Char) :=
  let (negative, unsigned) := splitSign numeral
  match namedNumber? (String.ofList (unsigned.take 3)) with
  | some magnitude =>
    let bits := (if negative then 0x80000000 else 0) + magnitude
    some (Binary32.ofBits bits, unsigned.drop 3)
  | none =>
    let body := numeral.takeWhile isPointedPart
    (withoutUnderscores? false body).bind fun characters =>
      (decimal? characters).map fun decimal =>
        (Binary32.ofDecimal decimal, numeral.dropWhile isPointedPart)

/-- The number of single precision of a numeral. A suffix has to name that precision. -/
def singleOf? (numeral : List Char) : Option Binary32 :=
  (pointedParts? numeral).bind fun (number, suffix) =>
    if suffix = [] ∨ suffix = ['f', '3', '2'] then some number else none

/-- Whether a numeral is a number of single or double precision. -/
def isPointed (numeral : List Char) : Bool :=
  (pointedParts? numeral).any fun (_, suffix) =>
    suffix = [] ∨ suffix = ['f', '3', '2'] ∨ suffix = ['f', '6', '4']

/-- Whether a run of characters is a numeral at all. -/
def isNumeral (characters : List Char) : Bool := isInteger characters || isPointed characters

end TileMatch.Wire.Ron
