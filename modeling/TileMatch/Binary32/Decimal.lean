import TileMatch.Binary32

/-!
# Decimal forms of single-precision numbers

A `Decimal` is a number written with digits and a power of ten. `Binary32.ofDecimal` rounds it to
single precision. `Binary32.shortest` goes the other way: of the decimal forms that round back to a
finite number it takes one with the fewest digits, and among those the nearest. Every form that it
gives has been read back, so nothing is lost by writing it.
-/

namespace TileMatch

/-- A number in decimal form: a sign, and a coefficient times a power of ten. -/
structure Decimal where
  negative : Bool
  coefficient : Nat
  exponent : Int
  deriving DecidableEq, Repr

namespace Decimal

/-- The value of a list of decimal digits. -/
def digitsValue (digits : List Char) : Nat :=
  digits.foldl (fun value digit => 10 * value + (digit.toNat - '0'.toNat)) 0

/-- The decimal digits of a natural number. -/
def digitsOf (number : Nat) : List Char := Nat.toDigits 10 number

end Decimal

namespace Binary32

/-- The magnitude nearest to a coefficient times a power of ten. Beyond the range of single
precision the power of ten is not worked out. -/
def nearestDecimal (coefficient : Nat) (exponent : Int) : Nat :=
  let size := (Decimal.digitsOf coefficient).length + exponent
  if coefficient = 0 ∨ size < -60 then 0
  else if 60 < size then infinity
  else if 0 ≤ exponent then nearest (coefficient * Nat.pow 10 exponent.toNat * one) 1
  else nearest (coefficient * one) (Nat.pow 10 (-exponent).toNat)

theorem nearestDecimal_lt (coefficient : Nat) (exponent : Int) :
    nearestDecimal coefficient exponent < 0x80000000 := by
  simp only [nearestDecimal]
  split
  · decide
  · split
    · decide
    · split <;> exact nearest_lt _ _

/-- The number nearest to a decimal form, infinite when it is too large. -/
def ofDecimal (decimal : Decimal) : Binary32 :=
  ⟨decimal.negative, nearestDecimal decimal.coefficient decimal.exponent, nearestDecimal_lt _ _⟩

/-- The quotient of two numbers rounded to fifty-three binary digits, a tie going to the even
number. -/
def roundToDouble (numerator denominator : Nat) : Nat :=
  let shift := (numerator / denominator).log2 - 52
  roundedQuotient numerator (denominator <<< shift) <<< shift

/-- The magnitude nearest to the number of double precision that is nearest to a coefficient times a
power of ten. Where single precision has its range, double precision always has all of its digits;
`2 ^ -400` is a fine enough unit for them. -/
def nearestDoubleDecimal (coefficient : Nat) (exponent : Int) : Nat :=
  let size := (Decimal.digitsOf coefficient).length + exponent
  if coefficient = 0 ∨ size < -60 then 0
  else if 60 < size then infinity
  else
    let unit := 1 <<< 400
    let double :=
      if 0 ≤ exponent then roundToDouble (coefficient * Nat.pow 10 exponent.toNat * unit) 1
      else roundToDouble (coefficient * unit) (Nat.pow 10 (-exponent).toNat)
    nearest (double * one) unit

theorem nearestDoubleDecimal_lt (coefficient : Nat) (exponent : Int) :
    nearestDoubleDecimal coefficient exponent < 0x80000000 := by
  simp only [nearestDoubleDecimal]
  split
  · decide
  · split
    · decide
    · exact nearest_lt _ _

/-- The number nearest to the number of double precision that is nearest to a decimal form, infinite
when it is too large. -/
def ofDoubleDecimal (decimal : Decimal) : Binary32 :=
  ⟨decimal.negative, nearestDoubleDecimal decimal.coefficient decimal.exponent,
    nearestDoubleDecimal_lt _ _⟩

/-- The number of digits before the point of a number of units that is not zero; minus the number of
zeros that follow the point when there are none. -/
def wholeDigits (units : Nat) : Int :=
  match (List.range 100).find? fun place => units * Nat.pow 10 50 < one * Nat.pow 10 place with
  | some place => (place : Int) - 50
  | none => 50

/-- The distance from units to a coefficient times a power of ten, scaled by a factor that depends
on the power alone. -/
def distance (units coefficient : Nat) (exponent : Int) : Nat :=
  let scale := Nat.pow 10 (-exponent).toNat
  let given := units * scale
  let written := coefficient * Nat.pow 10 exponent.toNat * one
  (given - written) + (written - given)

/-- A coefficient times a power of ten, with a coefficient of at most the given number of digits
even when it has just reached the next power of ten. -/
def carried (digits coefficient : Nat) (exponent : Int) : Nat × Int :=
  if coefficient = Nat.pow 10 digits then (1, exponent + digits) else (coefficient, exponent)

/-- The nearest decimal form with at most a given number of digits that rounds to a magnitude; of
two that are equally near the greater one. -/
def formWith? (magnitude digits : Nat) : Option (Nat × Int) :=
  let units := unitsOf magnitude
  let exponent := wholeDigits units - digits
  let coefficient := units * Nat.pow 10 (-exponent).toNat / (one * Nat.pow 10 exponent.toNat)
  let forms :=
    if distance units coefficient exponent < distance units (coefficient + 1) exponent then
      [carried digits coefficient exponent, carried digits (coefficient + 1) exponent]
    else [carried digits (coefficient + 1) exponent, carried digits coefficient exponent]
  forms.find? fun form => nearestDecimal form.1 form.2 == magnitude

/-- The coefficient and power of ten that are exactly a number of units. -/
def exactForm (units : Nat) : Nat × Int := (units * Nat.pow 5 149, -149)

/-- The shortest decimal form of a finite number. Nine digits always suffice; the exact form stands
behind them. -/
def shortest (number : Binary32) : Decimal :=
  if number.magnitude = 0 then ⟨number.negative, 0, 0⟩
  else
    let form := ((List.range' 1 9).findSome? (formWith? number.magnitude)).getD
      (exactForm number.units)
    ⟨number.negative, form.1, form.2⟩

/-- Digits and a power of ten, positionally and with at least one digit after the point. -/
def positionalText (digits : List Char) (exponent : Int) : List Char :=
  if 0 ≤ exponent then digits ++ List.replicate exponent.toNat '0' ++ ['.', '0']
  else
    let places := (-exponent).toNat
    let padded := List.replicate (places + 1 - digits.length) '0' ++ digits
    padded.take (padded.length - places) ++ '.' :: padded.drop (padded.length - places)

/-- Digits and a power of ten with an exponent, and a point after the first digit if more follow. -/
def exponentText (digits : List Char) (exponent : Int) : List Char :=
  let fraction := digits.drop 1
  let power := exponent + fraction.length
  digits.take 1 ++ (if fraction.isEmpty then [] else '.' :: fraction) ++
    'e' :: (toString power).toList

/-- The text of a number: `inf`, `NaN`, or its shortest decimal form, with an exponent when it is
below `10 ^ -4` or not below `10 ^ 16`. -/
def text (number : Binary32) : String :=
  if number.isNaN then "NaN"
  else
    let sign := if number.negative then ['-'] else []
    if !number.isFinite then String.ofList (sign ++ "inf".toList)
    else
      let form := number.shortest
      let digits := Decimal.digitsOf form.coefficient
      let positional := number.magnitude = 0 ∨
        nearestDecimal 1 (-4) ≤ number.magnitude ∧ number.magnitude < nearestDecimal 1 16
      String.ofList (sign ++
        if positional then positionalText digits form.exponent
        else exponentText digits form.exponent)

end Binary32

end TileMatch
