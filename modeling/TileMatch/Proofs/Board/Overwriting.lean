import TileMatch.Board.Reconciler

/-!
# Comparing is overwriting

Against a baseline the reconciler writes only the squares in which a snapshot differs from it. That
is right as long as the baseline is the live grid itself, which no snapshot, update or reset changes
(`Reconciler.InStep`). The result is then the grid of a writer without a baseline, one that takes
over every snapshot whole (`Grid.overwrite`), and the squares reported are those that change.
-/

namespace TileMatch

/-- What can be done to the board. -/
inductive BoardCall where
  | snapshot (rows : List (List CellOwner))
  | update (cells : List (Position × CellOwner))
  | reset

namespace Grid

/-- Gives one square a new owner. Off the board nothing happens. -/
def write (grid : Grid) (entry : Position × CellOwner) : Grid :=
  match entry.1.cell? with
  | some cell => grid.set cell entry.2
  | none => grid

/-- Overwrites the grid, with nothing to compare with. -/
def overwrite (grid : Grid) : BoardCall → Grid
  | .snapshot rows =>
    match ofRows rows with
    | .ok incoming => incoming
    | .error _ => grid
  | .update cells => cells.foldl write grid
  | .reset => empty

/-! ## Rows of owners -/

theorem hasBoardSize_toRows (grid : Grid) : Snapshot.HasBoardSize grid.toRows := by
  constructor
  · simp [toRows]
  · intro row row_mem
    simp only [toRows, List.mem_map] at row_mem
    rcases row_mem with ⟨vector, _, rfl⟩
    simp

theorem ofRows_of_hasBoardSize {rows : List (List CellOwner)} (fits : Snapshot.HasBoardSize rows) :
    ofRows rows = .ok (ofFn fun cell =>
      (rows[cell.row.val]?.bind (·[cell.column.val]?)).getD .empty) := by
  unfold ofRows Snapshot.checkSize
  rw [if_pos fits]
  rfl

theorem ofRows_of_not_hasBoardSize {rows : List (List CellOwner)}
    (unfit : ¬Snapshot.HasBoardSize rows) :
    ofRows rows = .error (.malformed rows.length (Snapshot.widest rows)) := by
  unfold ofRows Snapshot.checkSize
  rw [if_neg unfit]
  rfl

theorem ofRows_toRows (grid : Grid) : ofRows grid.toRows = .ok grid := by
  rw [ofRows_of_hasBoardSize grid.hasBoardSize_toRows]
  apply congrArg Except.ok
  apply Grid.ext
  intro cell
  rw [owner_ofFn]
  simp [toRows, Grid.owner]

theorem toRows_of_ofRows {rows : List (List CellOwner)} {grid : Grid}
    (accepted : ofRows rows = .ok grid) : grid.toRows = rows := by
  by_cases fits : Snapshot.HasBoardSize rows
  · rw [ofRows_of_hasBoardSize fits, Except.ok.injEq] at accepted
    subst accepted
    rcases fits with ⟨height, width⟩
    apply List.ext_getElem
    · simp [toRows, height]
    · intro row rowBelow rowBelowRows
      have wide := width rows[row] (List.getElem_mem rowBelowRows)
      apply List.ext_getElem
      · simp [toRows, wide]
      · intro column columnBelow columnBelowRow
        simp [toRows, ofFn, rowBelowRows, columnBelowRow]
  · rw [ofRows_of_not_hasBoardSize fits] at accepted
    cases accepted

end Grid

namespace Reconciler

/-- The baseline, if there is one, is the live grid. -/
def InStep (board : Reconciler) : Prop :=
  ∀ baseline, board.baseline = some baseline → baseline = board.grid

/-- Makes one call. A snapshot that is refused leaves the board as it is. -/
def step (board : Reconciler) : BoardCall → Reconciler × Except BoardError (List CellChange)
  | .snapshot rows =>
    match board.applySnapshot rows with
    | .ok (board, changes) => (board, .ok changes)
    | .error error => (board, .error error)
  | .update cells => ((board.applyCells cells).1, .ok (board.applyCells cells).2)
  | .reset => (board.reset.1, .ok board.reset.2)

/-- The board after a list of calls. -/
def after (board : Reconciler) (calls : List BoardCall) : Reconciler :=
  calls.foldl (fun board call => (board.step call).1) board

/-! ## Snapshots -/

theorem owner_copyCells (source target : Grid) (cells : List Cell) (cell : Cell) :
    (copyCells source target cells).owner cell =
      if cell ∈ cells then source.owner cell else target.owner cell := by
  induction cells generalizing target with
  | nil => simp [copyCells]
  | cons first rest hypothesis =>
      have written := hypothesis (target.set first (source.owner first))
      simp only [copyCells, List.foldl_cons] at written ⊢
      rw [written, Grid.owner_set]
      by_cases inRest : cell ∈ rest
      · simp [inRest]
      · by_cases same : cell = first
        · simp [same]
        · simp [inRest, same]

/-- Writing the squares that differ from the baseline writes all that differ. -/
theorem InStep.accept_fst {board : Reconciler} (inStep : board.InStep) (incoming : Grid) :
    (board.accept incoming).1 = ⟨incoming, some incoming⟩ := by
  have copied : copyCells incoming board.grid (board.writtenCells incoming) = incoming := by
    ext cell
    rw [owner_copyCells]
    unfold writtenCells staleCells
    cases known : board.baseline with
    | none => simp
    | some baseline =>
        -- A square that is not written has the owner of the baseline, which is the live grid.
        have same := inStep baseline known
        subst same
        by_cases differs : incoming.owner cell = board.grid.owner cell
        · simp [differs]
        · simp [differs]
  simp only [accept, copied]

/-- Against a baseline the squares reported are those in which the live grid changes. -/
theorem InStep.staleCells_of_baseline {board : Reconciler} (inStep : board.InStep)
    (known : board.baseline ≠ none) (incoming : Grid) :
    board.staleCells incoming =
      Cell.all.filter fun cell => board.grid.owner cell != incoming.owner cell := by
  unfold staleCells
  split
  case h_1 unknown => exact absurd unknown known
  case h_2 baseline found =>
    rw [inStep baseline found]
    apply List.filter_congr
    intro cell _
    rw [bne_comm]

theorem step_snapshot_of_hasBoardSize (board : Reconciler) {rows : List (List CellOwner)}
    (fits : Snapshot.HasBoardSize rows) : ∃ incoming : Grid, incoming.toRows = rows ∧
      board.step (.snapshot rows) = ((board.accept incoming).1, .ok (board.accept incoming).2) := by
  have accepted := Grid.ofRows_of_hasBoardSize fits
  refine ⟨_, Grid.toRows_of_ofRows accepted, ?_⟩
  simp only [step, applySnapshot, accepted, Except.map]

theorem step_snapshot_of_not_hasBoardSize (board : Reconciler) {rows : List (List CellOwner)}
    (unfit : ¬Snapshot.HasBoardSize rows) : board.step (.snapshot rows) =
      (board, .error (.malformed rows.length (Snapshot.widest rows))) := by
  simp only [step, applySnapshot, Grid.ofRows_of_not_hasBoardSize unfit, Except.map]

theorem step_snapshot_eq_ok_iff {board next : Reconciler} {rows : List (List CellOwner)}
    {changes : List CellChange} : board.step (.snapshot rows) = (next, .ok changes) ↔
      board.applySnapshot rows = .ok (next, changes) := by
  simp only [step]
  cases board.applySnapshot rows <;> simp [Prod.ext_iff]

/-! ## Updates -/

theorem applyCell_grid (board : Reconciler) (position : Position) (owner : CellOwner) :
    (board.applyCell position owner).1.grid = board.grid.write (position, owner) := by
  unfold applyCell Grid.write
  split
  case h_1 off => simp [off]
  case h_2 cell found => simp [found]

theorem InStep.applyCell {board : Reconciler} (inStep : board.InStep) (position : Position)
    (owner : CellOwner) : (board.applyCell position owner).1.InStep := by
  unfold Reconciler.applyCell
  split
  case h_1 => exact inStep
  case h_2 cell _ =>
    intro baseline found
    rcases Option.map_eq_some_iff.mp found with ⟨before, known, rfl⟩
    rw [inStep before known]

theorem applyCells_grid (board : Reconciler) (cells : List (Position × CellOwner)) :
    (board.applyCells cells).1.grid = cells.foldl Grid.write board.grid := by
  induction cells generalizing board with
  | nil => rfl
  | cons entry rest hypothesis =>
      rw [List.foldl_cons, ← applyCell_grid]
      exact hypothesis (board.applyCell entry.1 entry.2).1

theorem InStep.applyCells {board : Reconciler} (inStep : board.InStep)
    (cells : List (Position × CellOwner)) : (board.applyCells cells).1.InStep := by
  induction cells generalizing board with
  | nil => exact inStep
  | cons entry rest hypothesis => exact hypothesis (inStep.applyCell entry.1 entry.2)

/-! ## Calls -/

theorem InStep.step {board : Reconciler} (inStep : board.InStep) (call : BoardCall) :
    (board.step call).1.InStep := by
  cases call with
  | snapshot rows =>
      by_cases fits : Snapshot.HasBoardSize rows
      · rcases board.step_snapshot_of_hasBoardSize fits with ⟨incoming, _, accepted⟩
        rw [accepted, inStep.accept_fst incoming]
        intro baseline known
        cases known
        rfl
      · rwa [board.step_snapshot_of_not_hasBoardSize fits]
  | update cells => exact inStep.applyCells cells
  | reset =>
      intro baseline known
      cases known

theorem InStep.step_grid {board : Reconciler} (inStep : board.InStep) (call : BoardCall) :
    (board.step call).1.grid = board.grid.overwrite call := by
  cases call with
  | snapshot rows =>
      by_cases fits : Snapshot.HasBoardSize rows
      · rcases board.step_snapshot_of_hasBoardSize fits with ⟨incoming, rfl, accepted⟩
        rw [accepted, inStep.accept_fst incoming]
        simp only [Grid.overwrite, Grid.ofRows_toRows]
      · rw [board.step_snapshot_of_not_hasBoardSize fits]
        simp only [Grid.overwrite, Grid.ofRows_of_not_hasBoardSize fits]
  | update cells => exact board.applyCells_grid cells
  | reset => rfl

theorem InStep.after {board : Reconciler} (inStep : board.InStep) (calls : List BoardCall) :
    (board.after calls).InStep ∧
      (board.after calls).grid = calls.foldl Grid.overwrite board.grid := by
  induction calls generalizing board with
  | nil => exact ⟨inStep, rfl⟩
  | cons call rest hypothesis =>
      rw [List.foldl_cons, ← inStep.step_grid call]
      exact hypothesis (inStep.step call)

/-- After any calls on a new board the baseline, if there is one, is the live grid, and the live
grid is the one that plain overwriting leads to. The next snapshot, if it has the board's
dimensions, becomes the live grid and the baseline, and the squares reported in row-major order are
those where it differs from the grid before, and without a baseline also those that it fills; if it
has not, the board stays as it is. -/
theorem after_eq_overwriting (calls : List BoardCall) :
    (∀ baseline, (start.after calls).baseline = some baseline →
      baseline = (start.after calls).grid) ∧
    (start.after calls).grid = calls.foldl Grid.overwrite .empty ∧
    (∀ rows, Snapshot.HasBoardSize rows → ∃ next changes,
      (start.after calls).step (.snapshot rows) = (next, .ok changes) ∧
      next.grid.toRows = rows ∧ next.baseline = some next.grid ∧
      ((start.after calls).baseline ≠ none → changes =
        (Cell.all.filter fun cell =>
          (start.after calls).grid.owner cell != next.grid.owner cell).map
            (changeAt next.grid)) ∧
      ((start.after calls).baseline = none → changes =
        (Cell.all.filter fun cell => next.grid.owner cell != .empty ||
          (start.after calls).grid.owner cell != next.grid.owner cell).map
            (changeAt next.grid))) ∧
    ∀ rows, ¬Snapshot.HasBoardSize rows → ∃ error,
      (start.after calls).step (.snapshot rows) = (start.after calls, .error error) := by
  have inStepAtStart : start.InStep := by
    intro baseline known
    cases known
  rcases inStepAtStart.after calls with ⟨inStep, sameGrid⟩
  refine ⟨inStep, sameGrid, ?_, ?_⟩
  · intro rows fits
    rcases (start.after calls).step_snapshot_of_hasBoardSize fits with ⟨incoming, same, accepted⟩
    rw [inStep.accept_fst incoming] at accepted
    refine ⟨_, _, accepted, same, rfl, ?_, ?_⟩
    · intro known
      rw [← inStep.staleCells_of_baseline known incoming]
      rfl
    · intro unknown
      simp only [accept, staleCells, unknown]
  · intro rows unfit
    exact ⟨_, (start.after calls).step_snapshot_of_not_hasBoardSize unfit⟩

end Reconciler

end TileMatch
