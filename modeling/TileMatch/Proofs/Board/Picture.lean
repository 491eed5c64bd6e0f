import TileMatch.Proofs.Board.Overwriting

/-!
# A picture of the board

An observer knows the board only from the squares that are reported to it. It starts with an empty
picture and draws what it is told, one square after the other (`Grid.draw`). A picture of the grid
before an operation becomes one of the grid after it (`Reconciler.InStep.draw_step`). Nothing is
drawn for its own sake either: unless a snapshot comes without a baseline, each square reported
alters the picture at the moment at which it is drawn (`Reconciler.InStep.isAlteredBy_step`).
-/

namespace TileMatch

theorem Cell.nodup_all : all.Nodup := by
  unfold all List.Nodup
  rw [List.pairwise_flatMap]
  constructor
  · intro row _
    rw [List.pairwise_map]
    apply (List.nodup_finRange boardSize).imp
    intro first second apart same
    exact apart (congrArg Cell.column same)
  · apply (List.nodup_finRange boardSize).imp
    intro first second apart cell inFirst other inSecond
    rcases List.mem_map.mp inFirst with ⟨_, _, rfl⟩
    rcases List.mem_map.mp inSecond with ⟨_, _, rfl⟩
    exact fun same => apart (congrArg Cell.row same)

namespace Grid

/-- The picture after the listed squares have been drawn, one after the other. -/
def draw (picture : Grid) (changes : List CellChange) : Grid :=
  changes.foldl (fun picture change => picture.write (change.position, change.owner)) picture

/-- Each of the listed changes names a square of the board, and the picture shows another owner
there when it is drawn. -/
def IsAlteredBy (picture : Grid) : List CellChange → Prop
  | [] => True
  | change :: rest =>
    (∃ cell, change.position = cell.position ∧ picture.owner cell ≠ change.owner) ∧
      (picture.write (change.position, change.owner)).IsAlteredBy rest

variable (picture source target : Grid)

@[simp]
theorem draw_nil : picture.draw [] = picture := rfl

@[simp]
theorem draw_cons (change : CellChange) (rest : List CellChange) :
    picture.draw (change :: rest) =
      (picture.write (change.position, change.owner)).draw rest := rfl

theorem draw_append (first second : List CellChange) :
    picture.draw (first ++ second) = (picture.draw first).draw second :=
  List.foldl_append

@[simp]
theorem isAlteredBy_nil : picture.IsAlteredBy [] := trivial

theorem isAlteredBy_append (first second : List CellChange) :
    picture.IsAlteredBy (first ++ second) ↔
      picture.IsAlteredBy first ∧ (picture.draw first).IsAlteredBy second := by
  induction first generalizing picture with
  | nil => simp
  | cons change rest hypothesis => simp [IsAlteredBy, hypothesis, and_assoc]

@[simp]
theorem write_position (cell : Cell) (owner : CellOwner) :
    picture.write (cell.position, owner) = picture.set cell owner := by
  simp [write]

/-- Drawing squares with their owners in a grid copies them from it. -/
theorem draw_changeAt (cells : List Cell) :
    target.draw (cells.map (Reconciler.changeAt source)) =
      Reconciler.copyCells source target cells := by
  induction cells generalizing target with
  | nil => rfl
  | cons cell rest hypothesis =>
      simp only [List.map_cons, draw_cons, hypothesis]
      simp [Reconciler.changeAt, Reconciler.copyCells]

/-- Different squares in which a picture differs from a grid all alter it. -/
theorem isAlteredBy_changeAt {cells : List Cell} (distinct : cells.Nodup)
    (differs : ∀ cell ∈ cells, target.owner cell ≠ source.owner cell) :
    target.IsAlteredBy (cells.map (Reconciler.changeAt source)) := by
  induction cells generalizing target with
  | nil => trivial
  | cons cell rest hypothesis =>
      rw [List.nodup_cons] at distinct
      refine ⟨⟨cell, rfl, differs cell List.mem_cons_self⟩, ?_⟩
      apply hypothesis _ distinct.2
      intro other other_mem
      have apart : other ≠ cell := fun same => distinct.1 (same ▸ other_mem)
      simpa [Reconciler.changeAt, owner_set, apart] using
        differs other (List.mem_cons_of_mem _ other_mem)

end Grid

namespace Reconciler

variable {board : Reconciler}

/-! ## Snapshots -/

theorem InStep.mem_staleCells (inStep : board.InStep) {incoming : Grid} {cell : Cell}
    (differs : incoming.owner cell ≠ board.grid.owner cell) :
    cell ∈ board.staleCells incoming := by
  by_cases known : board.baseline = none
  · simp [staleCells, known, Ne.symm differs]
  · rw [inStep.staleCells_of_baseline known]
    simp [Ne.symm differs]

theorem InStep.draw_accept (inStep : board.InStep) (incoming : Grid) :
    board.grid.draw (board.accept incoming).2 = incoming := by
  rw [accept, Grid.draw_changeAt]
  ext cell
  rw [owner_copyCells]
  split
  case isTrue => rfl
  case isFalse notStale =>
    -- What is not reported is the same in both grids, or it would be stale.
    apply Decidable.byContradiction
    exact fun differs => notStale (inStep.mem_staleCells (Ne.symm differs))

theorem InStep.isAlteredBy_accept (inStep : board.InStep) (known : board.baseline ≠ none)
    (incoming : Grid) : board.grid.IsAlteredBy (board.accept incoming).2 := by
  rw [accept, inStep.staleCells_of_baseline known]
  apply Grid.isAlteredBy_changeAt
  · exact Cell.nodup_all.filter _
  · intro cell cell_mem
    simpa using (List.mem_filter.mp cell_mem).2

/-! ## Updates -/

variable (board)

theorem draw_applyCell (position : Position) (owner : CellOwner) :
    board.grid.draw (board.applyCell position owner).2 =
      (board.applyCell position owner).1.grid := by
  unfold applyCell
  split
  case h_1 => rfl
  case h_2 cell found =>
    rw [← Position.position_of_cell? found]
    dsimp only
    split
    case isTrue same =>
      ext other
      rw [Grid.draw_nil, Grid.owner_set]
      split
      case isTrue here => rw [here, same]
      case isFalse => rfl
    case isFalse => simp

theorem isAlteredBy_applyCell (position : Position) (owner : CellOwner) :
    board.grid.IsAlteredBy (board.applyCell position owner).2 := by
  unfold applyCell
  split
  case h_1 => trivial
  case h_2 cell found =>
    dsimp only
    split
    case isTrue => trivial
    case isFalse differs =>
      exact ⟨⟨cell, (Position.position_of_cell? found).symm, differs⟩, trivial⟩

theorem draw_applyCells (cells : List (Position × CellOwner)) :
    board.grid.draw (board.applyCells cells).2 = (board.applyCells cells).1.grid := by
  induction cells generalizing board with
  | nil => rfl
  | cons entry rest hypothesis =>
      simp only [applyCells]
      rw [Grid.draw_append, draw_applyCell, hypothesis]

theorem isAlteredBy_applyCells (cells : List (Position × CellOwner)) :
    board.grid.IsAlteredBy (board.applyCells cells).2 := by
  induction cells generalizing board with
  | nil => trivial
  | cons entry rest hypothesis =>
      simp only [applyCells]
      rw [Grid.isAlteredBy_append, draw_applyCell]
      exact ⟨board.isAlteredBy_applyCell _ _, hypothesis _⟩

/-! ## Clearing the board -/

/-- The squares that a reset reports are those that hold something, with their owners in the empty
grid. -/
theorem reset_snd : board.reset.2 =
    (board.grid.cellsWhere (· != .empty)).map (changeAt .empty) := by
  simp [reset, changeAt]

theorem draw_reset : board.grid.draw board.reset.2 = .empty := by
  rw [reset_snd, Grid.draw_changeAt]
  ext cell
  rw [owner_copyCells]
  split
  case isTrue => rfl
  case isFalse holdsNothing => simpa [Grid.cellsWhere] using holdsNothing

theorem isAlteredBy_reset : board.grid.IsAlteredBy board.reset.2 := by
  rw [reset_snd]
  apply Grid.isAlteredBy_changeAt
  · exact Cell.nodup_all.filter _
  · intro cell cell_mem
    simpa [Grid.cellsWhere] using cell_mem

/-! ## Calls -/

variable {board} {call : BoardCall} {changes : List CellChange}

/-- The squares that a call reports turn a picture of the grid before into one of the grid after. -/
theorem InStep.draw_step (inStep : board.InStep)
    (reported : (board.step call).2 = .ok changes) :
    board.grid.draw changes = (board.step call).1.grid := by
  cases call with
  | snapshot rows =>
      by_cases fits : Snapshot.HasBoardSize rows
      · rcases board.step_snapshot_of_hasBoardSize fits with ⟨incoming, _, accepted⟩
        rw [accepted] at reported ⊢
        cases reported
        rw [inStep.draw_accept, inStep.accept_fst]
      · rw [board.step_snapshot_of_not_hasBoardSize fits] at reported
        cases reported
  | update cells =>
      cases reported
      exact board.draw_applyCells cells
  | reset =>
      cases reported
      exact board.draw_reset

/-- What a call reports is nothing that a picture of the grid shows already, unless it is a snapshot
without a baseline. -/
theorem InStep.isAlteredBy_step (inStep : board.InStep)
    (reported : (board.step call).2 = .ok changes)
    (compared : ∀ rows, call = .snapshot rows → board.baseline ≠ none) :
    board.grid.IsAlteredBy changes := by
  cases call with
  | snapshot rows =>
      by_cases fits : Snapshot.HasBoardSize rows
      · rcases board.step_snapshot_of_hasBoardSize fits with ⟨incoming, _, accepted⟩
        rw [accepted] at reported
        cases reported
        exact inStep.isAlteredBy_accept (compared rows rfl) incoming
      · rw [board.step_snapshot_of_not_hasBoardSize fits] at reported
        cases reported
  | update cells =>
      cases reported
      exact board.isAlteredBy_applyCells cells
  | reset =>
      cases reported
      exact board.isAlteredBy_reset

end Reconciler

end TileMatch
