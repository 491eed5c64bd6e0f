import TileMatch.Board.Snapshot

/-!
# Reconciling the board

The `Reconciler` is the only writer of the live grid. It remembers the last snapshot, kept up to
date by later placements, as a baseline: a new snapshot is compared with the baseline and only the
squares that differ are written. Every operation reports the squares to redraw.
-/

namespace TileMatch

/-- A square to redraw and its owner. -/
structure CellChange where
  position : Position
  owner : CellOwner
  deriving DecidableEq, Repr

/-- The live grid and, once a snapshot has been accepted since the last reset, the baseline. -/
structure Reconciler where
  grid : Grid
  baseline : Option Grid
  deriving DecidableEq

namespace Reconciler

/-- An empty board without a baseline. -/
def start : Reconciler := ⟨.empty, none⟩

/-- A square together with its owner in a grid, as a change to report. -/
def changeAt (grid : Grid) (cell : Cell) : CellChange := ⟨cell.position, grid.owner cell⟩

/-- The grid with the owners of another one in the listed squares. -/
def copyCells (source target : Grid) (cells : List Cell) : Grid :=
  cells.foldl (fun grid cell => grid.set cell (source.owner cell)) target

/-- The squares that a snapshot makes worth redrawing. Against a baseline these are the squares
where it differs from it; without one, those that hold something or change on the live grid. -/
def staleCells (board : Reconciler) (incoming : Grid) : List Cell :=
  match board.baseline with
  | none => Cell.all.filter fun cell =>
      incoming.owner cell != .empty || board.grid.owner cell != incoming.owner cell
  | some baseline => Cell.all.filter fun cell => incoming.owner cell != baseline.owner cell

/-- The squares that a snapshot writes: all of them without a baseline, and against one only those
where it differs. -/
def writtenCells (board : Reconciler) (incoming : Grid) : List Cell :=
  match board.baseline with
  | none => Cell.all
  | some _ => board.staleCells incoming

/-- Accepts a snapshot as the new state of the board. -/
def accept (board : Reconciler) (incoming : Grid) : Reconciler × List CellChange :=
  (⟨copyCells incoming board.grid (board.writtenCells incoming), some incoming⟩,
    (board.staleCells incoming).map (changeAt incoming))

/-- Applies a snapshot of owners; one without the board's dimensions is refused whole. -/
def applySnapshot (board : Reconciler) (rows : List (List CellOwner)) :
    Except BoardError (Reconciler × List CellChange) :=
  (Grid.ofRows rows).map board.accept

/-- Gives one square a new owner, on the live grid and in the baseline. Off the board nothing
happens. -/
def applyCell (board : Reconciler) (position : Position) (owner : CellOwner) :
    Reconciler × List CellChange :=
  match position.cell? with
  | none => (board, [])
  | some cell =>
    (⟨board.grid.set cell owner, board.baseline.map (·.set cell owner)⟩,
      if board.grid.owner cell = owner then [] else [⟨position, owner⟩])

/-- Gives the listed squares new owners, one after the other. -/
def applyCells (board : Reconciler) :
    List (Position × CellOwner) → Reconciler × List CellChange
  | [] => (board, [])
  | (position, owner) :: rest =>
    let (board, changes) := board.applyCell position owner
    let (board, later) := board.applyCells rest
    (board, changes ++ later)

/-- Clears the board and forgets the baseline. -/
def reset (board : Reconciler) : Reconciler × List CellChange :=
  (start, (board.grid.cellsWhere (· != .empty)).map fun cell => ⟨cell.position, .empty⟩)

end Reconciler

end TileMatch
