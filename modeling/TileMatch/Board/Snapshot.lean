import TileMatch.Board.Grid

/-!
# Board snapshots

The server sends a whole board as rows of cell codes. A snapshot is accepted when it has the board's
dimensions and every code is known. The dimensions are looked at first, and of several bad codes
the first in row-major order is named.
-/

namespace TileMatch

/-- Why a snapshot cannot be a board. -/
inductive BoardError where
  | malformed (rows : Nat) (widest : Nat)
  | invalidCell (row : Nat) (column : Nat) (code : Int)
  deriving DecidableEq, Repr

namespace BoardError

/-- The wording of the error. -/
def message : BoardError → String
  | malformed rows widest => s!"snapshot is {rows}x{widest}, expected 20x20"
  | invalidCell row column code => s!"unknown cell code {code} at ({row}, {column})"

end BoardError

namespace Snapshot

/-- The length of the longest row, zero when there are no rows. -/
def widest {α : Type} (rows : List (List α)) : Nat := (rows.map List.length).foldl max 0

/-- Whether there are as many rows as the board has, each of that length. -/
def HasBoardSize {α : Type} (rows : List (List α)) : Prop :=
  rows.length = boardSize ∧ ∀ row ∈ rows, row.length = boardSize

instance {α : Type} (rows : List (List α)) : Decidable (HasBoardSize rows) :=
  inferInstanceAs (Decidable (_ ∧ _))

/-- Refuses rows that do not have the board's dimensions. -/
def checkSize {α : Type} (rows : List (List α)) : Except BoardError Unit :=
  if HasBoardSize rows then .ok () else .error (.malformed rows.length (widest rows))

/-- The owner for the code of one square. -/
def decodeCell (row column : Nat) (code : Int) : Except BoardError CellOwner :=
  match CellOwner.ofCode? code with
  | some owner => .ok owner
  | none => .error (.invalidCell row column code)

/-- The owners for the codes of one row. -/
def decodeRow (row : Nat) (codes : List Int) : Except BoardError (List CellOwner) :=
  codes.zipIdx.mapM fun entry => decodeCell row entry.2 entry.1

/-- The owners for the codes of a snapshot. -/
def decode (rows : List (List Int)) : Except BoardError (List (List CellOwner)) := do
  checkSize rows
  rows.zipIdx.mapM fun entry => decodeRow entry.2 entry.1

/-- The codes of a grid of owners. -/
def encode (rows : List (List CellOwner)) : List (List Int) := rows.map (·.map CellOwner.code)

end Snapshot

namespace Grid

/-- The grid with given rows of owners. -/
def ofRows (rows : List (List CellOwner)) : Except BoardError Grid := do
  Snapshot.checkSize rows
  return ofFn fun cell => (rows[cell.row.val]?.bind (·[cell.column.val]?)).getD .empty

/-- The rows of owners of a grid. -/
def toRows (grid : Grid) : List (List CellOwner) := grid.rows.toList.map Vector.toList

end Grid

end TileMatch
