/-!
# Seats and their two numberings

A match has four seats. The server numbers them from one to four and uses zero for nobody; the
client counts them from zero. `Slot` is a seat that exists, so holding one proves that its number
is in range, and every change of numbering goes through `Slot.ofServer` and `Slot.toServer`.
-/

namespace TileMatch

/-- The fixed colours of the seats, in client order. -/
inductive Color where
  | blue
  | yellow
  | red
  | green
  deriving DecidableEq, Repr

namespace Color

/-- Every colour in client order. -/
def all : List Color := [blue, yellow, red, green]

/-- The name shown on labels. -/
def name : Color → String
  | blue => "Blue"
  | yellow => "Yellow"
  | red => "Red"
  | green => "Green"

end Color

/-- A seat of the match, counted from zero as the client does. -/
structure Slot where
  index : Fin 4
  deriving DecidableEq, Repr

/-- A number that names no seat in the numbering it was given for. -/
inductive SlotError where
  | server (number : Int)
  | client (index : Nat)
  deriving DecidableEq, Repr

namespace SlotError

/-- The wording of the error. -/
def message : SlotError → String
  | server number => s!"invalid server slot {number} (expected 1..=4)"
  | client index => s!"invalid client slot index {index} (expected 0..=3)"

/-- The offending number in the signed 64-bit range: an index of `2 ^ 63` or more wraps round. -/
def raw : SlotError → Int
  | server number => number
  | client index => Int.bmod index 0x10000000000000000

end SlotError

namespace Slot

/-- Every seat in client order. -/
def all : List Slot := (List.finRange 4).map Slot.mk

/-- The seat with a client index. -/
def ofIndex (index : Nat) : Except SlotError Slot :=
  if h : index < 4 then .ok ⟨⟨index, h⟩⟩ else .error (.client index)

/-- The seat with a server number. -/
def ofServer (number : Int) : Except SlotError Slot :=
  if h : 1 ≤ number ∧ number ≤ 4 then .ok ⟨⟨(number - 1).toNat, by omega⟩⟩
  else .error (.server number)

/-- The server number of a seat. -/
def toServer (slot : Slot) : Int := slot.index.val + 1

/-- The colour of a seat. -/
def color (slot : Slot) : Color :=
  match slot.index with
  | 0 => .blue
  | 1 => .yellow
  | 2 => .red
  | 3 => .green

/-- The seat as it is shown: its index and its colour. -/
def text (slot : Slot) : String :=
  let colorName := slot.color.name
  s!"slot{slot.index.val}({colorName})"

@[simp]
theorem ofServer_toServer (slot : Slot) : ofServer slot.toServer = .ok slot := by
  rcases slot with ⟨index, below⟩
  have inRange : 1 ≤ (index : Int) + 1 ∧ (index : Int) + 1 ≤ 4 := by omega
  simp [ofServer, toServer, inRange]

theorem toServer_of_ofServer {number : Int} {slot : Slot} (found : ofServer number = .ok slot) :
    slot.toServer = number := by
  unfold ofServer at found
  split at found
  · cases found
    simp only [toServer]
    omega
  · cases found

end Slot

end TileMatch
