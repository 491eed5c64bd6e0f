/-!
# Single-precision numbers

A `Binary32` is a sign and the other thirty-one bits of a binary number of single precision, read
as one number, its magnitude. Magnitudes below `Binary32.infinity` are finite, and such a number is
a whole multiple of `2 ^ -149`: `Binary32.units` is that multiple, and it grows with the magnitude.
So all arithmetic here is exact on natural numbers and rounds once, to the nearest magnitude, a tie
going to the even one.
-/

namespace TileMatch

/-- The quotient rounded to the nearest natural number, a half going to the even neighbour. -/
def roundedQuotient (numerator denominator : Nat) : Nat :=
  let quotient := numerator / denominator
  let rest := numerator % denominator
  if 2 * rest < denominator then quotient
  else if denominator < 2 * rest then quotient + 1
  else quotient + quotient % 2

/-- A number of single precision: its sign and its remaining bits. -/
structure Binary32 where
  negative : Bool
  magnitude : Nat
  magnitude_lt : magnitude < 0x80000000
  deriving DecidableEq, Repr

namespace Binary32

/-- The number with a given pattern of thirty-two bits. -/
def ofBits (bits : Nat) : Binary32 :=
  ⟨bits / 0x80000000 % 2 = 1, bits % 0x80000000, Nat.mod_lt _ (by decide)⟩

/-- The pattern of thirty-two bits of a number. -/
def toBits (number : Binary32) : Nat :=
  (if number.negative then 0x80000000 else 0) + number.magnitude

/-- The magnitude of infinity. Greater ones are not numbers. -/
def infinity : Nat := 0x7f800000

/-- Whether the number is neither infinite nor undefined. -/
def isFinite (number : Binary32) : Bool := number.magnitude < infinity

/-- Whether the number is undefined. -/
def isNaN (number : Binary32) : Bool := infinity < number.magnitude

/-- Whether the number is below zero; both zeros and an undefined number are not. -/
def isBelowZero (number : Binary32) : Bool :=
  number.negative && number.magnitude != 0 && !number.isNaN

/-- Whether the number is above zero. -/
def isAboveZero (number : Binary32) : Bool :=
  !number.negative && number.magnitude != 0 && !number.isNaN

/-- The number of magnitudes between a power of two and the next one. -/
def binade : Nat := 0x800000

/-- A magnitude in units of `2 ^ -149`. -/
def unitsOf (magnitude : Nat) : Nat :=
  if magnitude / binade = 0 then magnitude
  else (binade + magnitude % binade) <<< (magnitude / binade - 1)

/-- The size of a finite number in units of `2 ^ -149`. -/
def units (number : Binary32) : Nat := unitsOf number.magnitude

/-- The units in one. -/
def one : Nat := 1 <<< 149

/-- The magnitude nearest to a quotient of units, a tie going to the even one, and infinity when the
quotient is too large. Numbers of a binade lie `2 ^ shift` units apart, and since magnitudes are
consecutive, rounding up to the end of a binade yields the first magnitude of the next. -/
def nearest (numerator denominator : Nat) : Nat :=
  let shift := (numerator / denominator).log2 - 23
  min infinity (shift * binade + roundedQuotient numerator (denominator <<< shift))

theorem nearest_lt (numerator denominator : Nat) : nearest numerator denominator < 0x80000000 :=
  Nat.lt_of_le_of_lt (Nat.min_le_left _ _) (by decide)

/-- The number nearest to a quotient, with a given sign. -/
def ofRatio (negative : Bool) (numerator denominator : Nat) : Binary32 :=
  ⟨negative, nearest (numerator * one) denominator, nearest_lt _ _⟩

/-- The number nearest to a natural number. -/
def ofNat (number : Nat) : Binary32 := ofRatio false number 1

/-- The sum of two finite numbers that are not negative. -/
def add (first second : Binary32) : Binary32 :=
  ⟨false, nearest (first.units + second.units) 1, nearest_lt _ _⟩

/-- The quotient of two finite numbers that are not negative. -/
def divide (first second : Binary32) : Binary32 := ofRatio false first.units second.units

/-- The least natural number that is not below a finite number that is not negative. -/
def ceil (number : Binary32) : Nat := (number.units + (one - 1)) / one

end Binary32

end TileMatch
