import TileMatch.Proofs.Board.Overwriting

/-!
# The same call again

What an event of the server does to the board is one call of the reconciler, and the event may
arrive twice. A call that gives all its squares to one owner leaves nothing to do for the same call
made again: the board stays as it is, and nothing is reported (`Reconciler.InStep.step_again`).
-/

namespace TileMatch

namespace Grid

@[simp]
theorem set_owner (grid : Grid) (cell : Cell) : grid.set cell (grid.owner cell) = grid := by
  ext other
  rw [owner_set]
  split
  case isTrue same => rw [same]
  case isFalse => rfl

/-- Giving squares to one owner changes those of them that are on the board, and no other square. -/
theorem owner_foldl_write (grid : Grid) (positions : List Position) (owner : CellOwner)
    (cell : Cell) :
    ((positions.map fun position => (position, owner)).foldl write grid).owner cell =
      if cell ∈ positions.filterMap Position.cell? then owner else grid.owner cell := by
  induction positions generalizing grid with
  | nil => simp
  | cons position rest hypothesis =>
      rw [List.map_cons, List.foldl_cons, hypothesis]
      cases found : position.cell? with
      | none => simp [write, found]
      | some named =>
          by_cases inRest : cell ∈ rest.filterMap Position.cell?
          · simp [found, inRest]
          · by_cases same : cell = named
            · simp [write, found, same, owner_set]
            · simp [write, found, inRest, same, owner_set]

end Grid

/-- The call does not give a square to two owners. -/
inductive BoardCall.IsUniform : BoardCall → Prop
  | snapshot (rows : List (List CellOwner)) : IsUniform (.snapshot rows)
  | update (positions : List Position) (owner : CellOwner) :
      IsUniform (.update (positions.map fun position => (position, owner)))
  | reset : IsUniform .reset

namespace Reconciler

variable {board : Reconciler}

/-- A square that has its new owner already is left alone. -/
theorem InStep.applyCell_of_owner (inStep : board.InStep) {position : Position} {owner : CellOwner}
    (owned : ∀ cell, position.cell? = some cell → board.grid.owner cell = owner) :
    board.applyCell position owner = (board, []) := by
  unfold Reconciler.applyCell
  split
  case h_1 => rfl
  case h_2 cell found =>
    have same := owned cell found
    have baseline : board.baseline.map (·.set cell owner) = board.baseline := by
      cases known : board.baseline with
      | none => rfl
      | some baseline =>
          rw [inStep baseline known, Option.map_some, ← same, Grid.set_owner]
    rw [if_pos same, baseline, ← same, Grid.set_owner]

theorem InStep.applyCells_of_owner (inStep : board.InStep) {positions : List Position}
    {owner : CellOwner}
    (owned : ∀ cell ∈ positions.filterMap Position.cell?, board.grid.owner cell = owner) :
    board.applyCells (positions.map fun position => (position, owner)) = (board, []) := by
  induction positions with
  | nil => rfl
  | cons position rest hypothesis =>
      have first : board.applyCell position owner = (board, []) := by
        apply inStep.applyCell_of_owner
        intro cell found
        exact owned cell (List.mem_filterMap.mpr ⟨position, List.mem_cons_self, found⟩)
      have later := hypothesis fun cell named => by
        rcases List.mem_filterMap.mp named with ⟨other, other_mem, found⟩
        exact owned cell (List.mem_filterMap.mpr ⟨other, List.mem_cons_of_mem _ other_mem, found⟩)
      simp only [List.map_cons, Reconciler.applyCells, first, later, List.append_nil]

/-- A snapshot that is the board already has nothing to report. -/
theorem accept_of_same (grid : Grid) :
    accept ⟨grid, some grid⟩ grid = (⟨grid, some grid⟩, []) := by
  have nothing : staleCells ⟨grid, some grid⟩ grid = [] := by
    apply List.filter_eq_nil_iff.mpr
    simp
  simp [accept, writtenCells, nothing, copyCells]

theorem reset_start : start.reset = (start, []) := by
  simp [reset, start, Grid.cellsWhere]

/-- A call that has been taken leaves nothing to do for the same call. -/
theorem InStep.step_again (inStep : board.InStep) {call : BoardCall} (uniform : call.IsUniform)
    {next : Reconciler} {changes : List CellChange}
    (taken : board.step call = (next, .ok changes)) : next.step call = (next, .ok []) := by
  cases uniform with
  | snapshot rows =>
      by_cases fits : Snapshot.HasBoardSize rows
      · rcases board.step_snapshot_of_hasBoardSize fits with ⟨incoming, rfl, accepted⟩
        rw [accepted, inStep.accept_fst incoming] at taken
        cases taken
        rcases step_snapshot_of_hasBoardSize ⟨incoming, some incoming⟩ fits with
          ⟨same, rows, again⟩
        have read := incoming.ofRows_toRows
        rw [← rows, same.ofRows_toRows, Except.ok.injEq] at read
        rw [again, read, accept_of_same]
      · rw [board.step_snapshot_of_not_hasBoardSize fits] at taken
        cases taken
  | update positions owner =>
      cases taken
      have afterwards := inStep.applyCells (positions.map fun position => (position, owner))
      have owned : ∀ cell ∈ positions.filterMap Position.cell?,
          (board.applyCells (positions.map fun position => (position, owner))).1.grid.owner cell =
            owner := by
        intro cell named
        rw [applyCells_grid, Grid.owner_foldl_write, if_pos named]
      simp only [Reconciler.step, afterwards.applyCells_of_owner owned]
  | reset =>
      cases taken
      exact congrArg (fun result => (result.1, Except.ok result.2)) reset_start

end Reconciler

end TileMatch
