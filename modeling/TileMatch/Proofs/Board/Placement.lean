import Mathlib.Data.List.Nodup
import TileMatch.Proofs.Board.Picture
import TileMatch.Proofs.Board.Repeating

/-!
# A placement on the board

A placement gives the listed positions to one owner. The list comes from outside: it may name a
square more than once, name squares that the owner holds already, and name positions beside the
board. What is gained are the listed squares with another owner, each at its first mention
(`Grid.gained`), and exactly these are reported (`Reconciler.applyCells_snd`).

So nothing depends on the order of the list or on repetitions in it but the order of the report.
-/

namespace TileMatch

theorem nodup_eraseDups {α : Type} [BEq α] [LawfulBEq α] : ∀ list : List α, list.eraseDups.Nodup
  | [] => by simp
  | first :: rest => by
      rw [List.eraseDups_cons, List.nodup_cons]
      exact ⟨by simp, nodup_eraseDups _⟩
termination_by list => list.length
decreasing_by exact Nat.lt_succ_of_le (List.length_filter_le _ _)

theorem Position.mem_filterMap_cell?_iff {positions : List Position} {cell : Cell} :
    cell ∈ positions.filterMap Position.cell? ↔ cell.position ∈ positions := by
  rw [List.mem_filterMap]
  constructor
  · rintro ⟨position, listed, found⟩
    rwa [Position.position_of_cell? found]
  · intro listed
    exact ⟨cell.position, listed, Position.cell?_position cell⟩

theorem Cell.position_injective : Function.Injective Cell.position := by
  intro first second same
  have found := Position.cell?_position first
  rw [same, Position.cell?_position] at found
  exact (Option.some.inj found).symm

namespace Grid

variable {grid : Grid} {positions : List Position} {owner : CellOwner}

/-- The listed squares that an owner does not hold yet, each once and in the order in which they are
mentioned first. -/
def gained (grid : Grid) (positions : List Position) (owner : CellOwner) : List Cell :=
  ((positions.filterMap Position.cell?).filter fun cell => grid.owner cell != owner).eraseDups

theorem mem_gained_iff {cell : Cell} : cell ∈ grid.gained positions owner ↔
    cell.position ∈ positions ∧ grid.owner cell ≠ owner := by
  rw [gained, List.mem_eraseDups, List.mem_filter, Position.mem_filterMap_cell?_iff, bne_iff_ne]

theorem nodup_gained : (grid.gained positions owner).Nodup := nodup_eraseDups _

/-- The squares gained depend on the positions that are listed, and not on how. -/
theorem gained_perm {others : List Position}
    (same : ∀ position, position ∈ others ↔ position ∈ positions) :
    (grid.gained others owner).Perm (grid.gained positions owner) := by
  rw [List.perm_ext_iff_of_nodup nodup_gained nodup_gained]
  intro cell
  rw [mem_gained_iff, mem_gained_iff, same]

theorem gained_cons_of_none {position : Position} (off : position.cell? = none) :
    grid.gained (position :: positions) owner = grid.gained positions owner := by
  simp [gained, off]

theorem gained_cons_of_owner {position : Position} {cell : Cell}
    (found : position.cell? = some cell) (owned : grid.owner cell = owner) :
    grid.gained (position :: positions) owner = grid.gained positions owner := by
  simp [gained, found, owned]

/-- A square that is gained is not gained again. -/
theorem gained_cons_of_ne {position : Position} {cell : Cell}
    (found : position.cell? = some cell) (differs : grid.owner cell ≠ owner) :
    grid.gained (position :: positions) owner =
      cell :: (grid.set cell owner).gained positions owner := by
  have left : (fun other => (grid.set cell owner).owner other != owner) =
      fun other => !(other == cell) && grid.owner other != owner := by
    funext other
    by_cases same : other = cell <;> simp [owner_set, same]
  simp only [gained, List.filterMap_cons, found]
  rw [List.filter_cons_of_pos (by simpa using differs), List.eraseDups_cons, List.filter_filter,
    left]

/-- After a placement the listed squares belong to the owner, and every other square is as it
was. -/
theorem owner_placed (grid : Grid) (positions : List Position) (owner : CellOwner) (cell : Cell) :
    ((positions.map fun position => (position, owner)).foldl write grid).owner cell =
      if cell.position ∈ positions then owner else grid.owner cell := by
  simp only [owner_foldl_write, Position.mem_filterMap_cell?_iff]

/-- The squares that do not have the same owner in two grids, in row-major order. -/
def changed (before after : Grid) : List Cell :=
  Cell.all.filter fun cell => before.owner cell != after.owner cell

theorem mem_changed_iff {before after : Grid} {cell : Cell} :
    cell ∈ before.changed after ↔ before.owner cell ≠ after.owner cell := by
  simp [changed]

theorem nodup_changed (before after : Grid) : (before.changed after).Nodup :=
  Cell.nodup_all.filter _

/-- A placement changes the squares that are gained by it. -/
theorem changed_placed_perm (grid : Grid) (positions : List Position) (owner : CellOwner) :
    (grid.changed ((positions.map fun position => (position, owner)).foldl write grid)).Perm
      (grid.gained positions owner) := by
  rw [List.perm_ext_iff_of_nodup (nodup_changed _ _) nodup_gained]
  intro cell
  rw [mem_changed_iff, mem_gained_iff, owner_placed]
  by_cases listed : cell.position ∈ positions <;> simp [listed]

theorem mem_cellsWhere_iff {holds : CellOwner → Bool} {cell : Cell} :
    cell ∈ grid.cellsWhere holds ↔ holds (grid.owner cell) = true := by
  simp [cellsWhere]

theorem nodup_cellsWhere (grid : Grid) (holds : CellOwner → Bool) :
    (grid.cellsWhere holds).Nodup :=
  Cell.nodup_all.filter _

/-- A seat that a placement is for owns the squares that it owned before and those gained. -/
theorem countOwned_placed (grid : Grid) (positions : List Position) (slot : Slot) :
    ((positions.map fun position => (position, CellOwner.owned slot)).foldl write grid).countOwned
      slot = grid.countOwned slot + (grid.gained positions (.owned slot)).length := by
  have apart : (grid.cellsWhere (· == .owned slot) ++
      grid.gained positions (.owned slot)).Nodup := by
    refine List.nodup_append.mpr ⟨grid.nodup_cellsWhere _, nodup_gained, ?_⟩
    rintro cell owned _ gained rfl
    exact (mem_gained_iff.mp gained).2 (beq_iff_eq.mp (mem_cellsWhere_iff.mp owned))
  rw [countOwned, countOwned, ← List.length_append]
  apply List.Perm.length_eq
  rw [List.perm_ext_iff_of_nodup (nodup_cellsWhere _ _) apart]
  intro cell
  simp only [List.mem_append, mem_cellsWhere_iff, beq_iff_eq, mem_gained_iff, owner_placed]
  by_cases owned : grid.owner cell = .owned slot <;>
    by_cases listed : cell.position ∈ positions <;> simp [owned, listed]

/-- When the listed positions are different squares that the owner does not hold, all of them are
gained. -/
theorem map_position_gained_perm (distinct : positions.Nodup)
    (free : ∀ position ∈ positions, ∃ cell : Cell,
      cell.position = position ∧ grid.owner cell ≠ owner) :
    ((grid.gained positions owner).map Cell.position).Perm positions := by
  rw [List.perm_ext_iff_of_nodup (nodup_gained.map Cell.position_injective) distinct]
  intro position
  rw [List.mem_map]
  constructor
  · rintro ⟨cell, gained, rfl⟩
    exact (mem_gained_iff.mp gained).1
  · intro listed
    rcases free position listed with ⟨cell, rfl, differs⟩
    exact ⟨cell, mem_gained_iff.mpr ⟨listed, differs⟩, rfl⟩

end Grid

namespace Reconciler

variable {board : Reconciler}

theorem applyCells_snd (board : Reconciler) (positions : List Position) (owner : CellOwner) :
    (board.applyCells (positions.map fun position => (position, owner))).2 =
      (board.grid.gained positions owner).map fun cell => ⟨cell.position, owner⟩ := by
  induction positions generalizing board with
  | nil => rfl
  | cons position rest hypothesis =>
      simp only [List.map_cons, applyCells]
      rw [hypothesis, applyCell_grid]
      unfold applyCell Grid.write
      cases found : position.cell? with
      | none => rw [Grid.gained_cons_of_none found, List.nil_append]
      | some cell =>
          dsimp only
          by_cases owned : board.grid.owner cell = owner
          · rw [Grid.gained_cons_of_owner found owned, if_pos owned, List.nil_append, ← owned]
            simp only [Grid.set_owner]
          · rw [Grid.gained_cons_of_ne found owned, if_neg owned, List.map_cons,
              Position.position_of_cell? found]
            rfl

/-- Two boards with a baseline in step are the same if their grids are, and both have a baseline or
none has. -/
theorem InStep.ext {other : Reconciler} (inStep : board.InStep) (otherInStep : other.InStep)
    (grid : board.grid = other.grid) (known : board.baseline = none ↔ other.baseline = none) :
    board = other := by
  have baseline : board.baseline = other.baseline := by
    cases mine : board.baseline with
    | none => exact (known.mp mine).symm
    | some first =>
        cases theirs : other.baseline with
        | none => exact absurd (known.mpr theirs) (by simp [mine])
        | some second => rw [inStep first mine, otherInStep second theirs, grid]
  rcases board with ⟨_, _⟩
  rcases other with ⟨_, _⟩
  simp_all

end Reconciler

end TileMatch
