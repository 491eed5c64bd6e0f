/-!
# Positions and cells

A `Position` is a pair of coordinates as it arrives from outside and may lie anywhere. A `Cell` is
one of the four hundred squares of the board. `Position.cell?` decides between the two once, and
all that happens on the board happens at cells.
-/

namespace TileMatch

/-- The length of an edge of the board. -/
def boardSize : Nat := 20

/-- Coordinates, rows from top to bottom and columns from left to right. -/
structure Position where
  row : Int
  column : Int
  deriving DecidableEq, Repr

/-- A square of the board. -/
structure Cell where
  row : Fin boardSize
  column : Fin boardSize
  deriving DecidableEq, Repr

namespace Cell

/-- Every square in row-major order. -/
def all : List Cell :=
  (List.finRange boardSize).flatMap fun row =>
    (List.finRange boardSize).map fun column => ⟨row, column⟩

/-- The coordinates of a square. -/
def position (cell : Cell) : Position := ⟨cell.row.val, cell.column.val⟩

@[simp]
theorem mem_all (cell : Cell) : cell ∈ all := by
  simp only [all, List.mem_flatMap, List.mem_map]
  exact ⟨cell.row, List.mem_finRange _, cell.column, List.mem_finRange _, rfl⟩

end Cell

namespace Position

/-- The square at these coordinates, if they lie on the board. -/
def cell? (position : Position) : Option Cell :=
  if h : (0 ≤ position.row ∧ position.row < boardSize) ∧
      (0 ≤ position.column ∧ position.column < boardSize) then
    some ⟨⟨position.row.toNat, by omega⟩, ⟨position.column.toNat, by omega⟩⟩
  else none

/-- Whether the coordinates lie on the board. -/
def onBoard (position : Position) : Bool := position.cell?.isSome

/-- The coordinate that a number is reduced to; coordinates have thirty-two bits, one of them for
the sign. -/
def reduced (number : Int) : Int := number.bmod UInt32.size

/-- The position moved by an offset. -/
def shift (position : Position) (offset : Int × Int) : Position :=
  ⟨reduced (position.row + offset.1), reduced (position.column + offset.2)⟩

/-- Whether a coordinate of the moved position has to be reduced. -/
def outgrows (position : Position) (offset : Int × Int) : Bool :=
  position.shift offset ≠ ⟨position.row + offset.1, position.column + offset.2⟩

@[simp]
theorem cell?_position (cell : Cell) : cell.position.cell? = some cell := by
  have rowBelow := cell.row.isLt
  have columnBelow := cell.column.isLt
  unfold cell?
  rw [dif_pos (by simp only [Cell.position]; omega)]
  rfl

theorem position_of_cell? {position : Position} {cell : Cell} (found : position.cell? = some cell) :
    cell.position = position := by
  rcases position with ⟨row, column⟩
  unfold cell? at found
  split at found
  case isTrue inside =>
    cases found
    simp only [Cell.position, Position.mk.injEq]
    dsimp only at inside
    omega
  case isFalse => cases found

end Position

end TileMatch
