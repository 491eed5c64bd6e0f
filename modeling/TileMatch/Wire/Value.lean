import TileMatch.Binary32

/-!
# Values on the wire

A `Value` is what a document says once its notation is forgotten: records with named fields, choices
between named alternatives, lists, pairs, and things that may be absent. Every type that is read or
written has a form of this kind, and both notations are read into it and written from it.
-/

namespace TileMatch.Wire

/-- A value without its notation. -/
inductive Value where
  | bool (value : Bool)
  | integer (value : Int)
  | single (value : Binary32)
  | text (value : String)
  | list (items : List Value)
  | pair (first second : Value)
  | absent
  | present (value : Value)
  | record (name : String) (fields : List (String × Value))
  /-- An alternative that is a name alone. -/
  | plain (name : String)
  /-- An alternative that holds one value. -/
  | wrapped (name : String) (value : Value)
  /-- An alternative that holds fields. -/
  | tagged (name : String) (fields : List (String × Value))
  deriving Repr

/-- The integers of fixed width that fields hold. -/
inductive Width where
  | unsigned8
  | unsigned16
  | unsigned32
  | unsigned64
  | signed32
  | signed64
  deriving DecidableEq, Repr

namespace Width

/-- The least integer of a width. -/
def least : Width → Int
  | signed32 => -0x80000000
  | signed64 => -0x8000000000000000
  | _ => 0

/-- The greatest integer of a width. -/
def greatest : Width → Int
  | unsigned8 => 0xff
  | unsigned16 => 0xffff
  | unsigned32 => 0xffffffff
  | unsigned64 => 0xffffffffffffffff
  | signed32 => 0x7fffffff
  | signed64 => 0x7fffffffffffffff

/-- Whether an integer fits a width. -/
def contains (width : Width) (value : Int) : Bool := width.least ≤ value && value ≤ width.greatest

end Width

namespace Value

/-- What may be absent, as a value. -/
def ofOption {α : Type} (toValue : α → Value) : Option α → Value
  | none => .absent
  | some element => .present (toValue element)

/-- What may be absent, of a value. -/
def toOption? {α : Type} (ofValue? : Value → Option α) : Value → Option (Option α)
  | .absent => some none
  | .present value => (ofValue? value).map some
  | _ => none

/-- A list, of a value. -/
def toList? {α : Type} (ofValue? : Value → Option α) : Value → Option (List α)
  | .list items => items.mapM ofValue?
  | _ => none

/-- A natural number, of a value. -/
def toNat? : Value → Option Nat
  | .integer value => if 0 ≤ value then some value.toNat else none
  | _ => none

/-- An integer, of a value. -/
def toInt? : Value → Option Int
  | .integer value => some value
  | _ => none

/-- A number of single precision, of a value. -/
def toSingle? : Value → Option Binary32
  | .single value => some value
  | _ => none

/-- A natural number as a value. -/
def ofNat (number : Nat) : Value := .integer number

/-- The element of a finite type whose name a value is. -/
def toNamed? {α : Type} (all : List α) (name : α → String) : Value → Option α
  | .plain wanted => all.find? fun element => name element == wanted
  | _ => none

end Value

end TileMatch.Wire
