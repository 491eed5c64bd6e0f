import TileMatch.Slot
import TileMatch.Board.Position

/-!
# The ownership grid

A `Grid` gives every square an owner. It is read with `Grid.owner` and written with `Grid.set`;
`owner_set` says that a write changes the written square alone, and two grids that agree in every
square are equal.
-/

namespace TileMatch

/-- Who holds a square. -/
inductive CellOwner where
  | empty
  | owned (slot : Slot)
  | obstacle
  deriving DecidableEq, Repr

namespace CellOwner

/-- The owner that a server code stands for: zero is empty, minus one an obstacle, and any other
number a seat in server numbering. -/
def ofCode? (code : Int) : Option CellOwner :=
  if code = 0 then some empty
  else if code = -1 then some obstacle
  else (Slot.ofServer code).toOption.map owned

/-- The server code of an owner. -/
def code : CellOwner → Int
  | empty => 0
  | owned slot => slot.toServer
  | obstacle => -1

end CellOwner

/-- An owner for each square of the board. -/
structure Grid where
  rows : Vector (Vector CellOwner boardSize) boardSize
  deriving DecidableEq

namespace Grid

/-- The grid with given owners. -/
def ofFn (owner : Cell → CellOwner) : Grid :=
  ⟨Vector.ofFn fun row => Vector.ofFn fun column => owner ⟨row, column⟩⟩

/-- The board without a tile. -/
def empty : Grid := ofFn fun _ => .empty

/-- The owner of a square. -/
def owner (grid : Grid) (cell : Cell) : CellOwner := grid.rows[cell.row][cell.column]

/-- The grid with a new owner for one square. -/
def set (grid : Grid) (cell : Cell) (owner : CellOwner) : Grid :=
  ⟨grid.rows.set cell.row (grid.rows[cell.row].set cell.column owner)⟩

/-- The owner at coordinates, `none` off the board. -/
def get? (grid : Grid) (position : Position) : Option CellOwner := position.cell?.map grid.owner

/-- Whether the coordinates lie on the board and hold nothing. -/
def isFree (grid : Grid) (position : Position) : Bool := grid.get? position == some .empty

/-- The squares with a given property of their owner, in row-major order. -/
def cellsWhere (grid : Grid) (holds : CellOwner → Bool) : List Cell :=
  Cell.all.filter fun cell => holds (grid.owner cell)

/-- The number of squares that hold something. -/
def occupied (grid : Grid) : Nat := (grid.cellsWhere (· != .empty)).length

/-- The number of squares that a seat owns. -/
def countOwned (grid : Grid) (slot : Slot) : Nat := (grid.cellsWhere (· == .owned slot)).length

@[ext]
theorem ext {first second : Grid} (agree : ∀ cell, first.owner cell = second.owner cell) :
    first = second := by
  rcases first with ⟨firstRows⟩
  rcases second with ⟨secondRows⟩
  congr
  apply Vector.ext
  intro row rowBelow
  apply Vector.ext
  intro column columnBelow
  exact agree ⟨⟨row, rowBelow⟩, ⟨column, columnBelow⟩⟩

@[simp]
theorem owner_ofFn (owner : Cell → CellOwner) (cell : Cell) :
    (ofFn owner).owner cell = owner cell := by
  simp [ofFn, Grid.owner]

@[simp]
theorem owner_empty (cell : Cell) : empty.owner cell = .empty := by
  simp [empty]

theorem owner_set (grid : Grid) (written read : Cell) (owner : CellOwner) :
    (grid.set written owner).owner read = if read = written then owner else grid.owner read := by
  rcases written with ⟨row, column⟩
  rcases read with ⟨readRow, readColumn⟩
  simp only [set, Grid.owner, Cell.mk.injEq]
  by_cases sameRow : readRow = row
  · subst sameRow
    by_cases sameColumn : readColumn = column
    · subst sameColumn
      simp
    · have apart : column.val ≠ readColumn.val := fun same => sameColumn (Fin.ext same.symm)
      simp [sameColumn, apart]
  · have apart : row.val ≠ readRow.val := fun same => sameRow (Fin.ext same.symm)
    simp [sameRow, apart]

end Grid

end TileMatch
