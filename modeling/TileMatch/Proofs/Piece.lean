import Mathlib.Data.List.Nodup
import TileMatch.Prediction

/-!
# The squares that a shape covers

Mirroring and turning take different offsets to different offsets, and sorting keeps them all. So
does moving, although it reduces coordinates: the offsets of a shape are so close to each other
(`Shape.near_of_mem_cells`) that no two of them end at one position. So a shape covers as many
different positions as its piece has squares, in every orientation and at every anchor.
-/

namespace TileMatch

theorem Piece.nodup_offsets (piece : Piece) : piece.offsets.Nodup := by
  cases piece <;> decide

theorem Rotation.apply_injective (rotation : Rotation) : Function.Injective rotation.apply := by
  intro first second same
  cases rotation <;> simp_all [Rotation.apply, Prod.ext_iff]

theorem Flip.apply_injective (flip : Flip) : Function.Injective flip.apply := by
  intro first second same
  cases flip <;> simp_all [Flip.apply, Prod.ext_iff]

/-- Numbers that are close to each other are reduced to different coordinates. -/
theorem Position.reduced_inj {base first second : Int} (above : first - second < UInt32.size)
    (below : second - first < UInt32.size)
    (same : reduced (base + first) = reduced (base + second)) : first = second := by
  simp only [reduced, Int.bmod_def, UInt32.size] at above below same
  omega

namespace Shape

theorem nodup_turned (shape : Shape) : shape.turned.Nodup :=
  shape.piece.nodup_offsets.map (shape.rotation.apply_injective.comp shape.flip.apply_injective)

theorem nodup_cells (shape : Shape) : shape.cells.Nodup := by
  refine (List.mergeSort_perm _ offsetLE).nodup_iff.mpr (shape.nodup_turned.map ?_)
  intro first second same
  simpa [Prod.ext_iff] using same

/-- An offset is at most four rows and columns from the origin. -/
def IsNear (offset : Int × Int) : Prop := offset.1.natAbs ≤ 4 ∧ offset.2.natAbs ≤ 4

instance (offset : Int × Int) : Decidable (IsNear offset) := inferInstanceAs (Decidable (_ ∧ _))

theorem isNear_of_mem_turned {shape : Shape} {offset : Int × Int} (turned : offset ∈ shape.turned) :
    IsNear offset := by
  have near : ∀ offset ∈ shape.piece.offsets, IsNear offset := by
    cases shape.piece <;> decide
  rcases List.mem_map.mp turned with ⟨original, listed, rfl⟩
  have bounds := near original listed
  unfold IsNear at bounds ⊢
  cases shape.flip <;> cases shape.rotation <;>
    simp only [Flip.apply, Rotation.apply, Int.natAbs_neg] <;> tauto

theorem near_of_mem_cells {shape : Shape} {first second : Int × Int} (mem : first ∈ shape.cells)
    (otherMem : second ∈ shape.cells) :
    (first.1 - second.1).natAbs ≤ 8 ∧ (first.2 - second.2).natAbs ≤ 8 := by
  simp only [cells, List.mem_mergeSort, List.mem_map] at mem otherMem
  rcases mem with ⟨near, turned, rfl⟩
  rcases otherMem with ⟨far, otherTurned, rfl⟩
  have bounds := isNear_of_mem_turned turned
  have otherBounds := isNear_of_mem_turned otherTurned
  simp only [IsNear] at bounds otherBounds ⊢
  omega

@[simp]
theorem length_cells (shape : Shape) : shape.cells.length = shape.piece.size := by
  simp [cells, turned, Piece.size]

theorem nodup_footprint (shape : Shape) (anchor : Position) : (shape.footprint anchor).Nodup := by
  refine shape.nodup_cells.map_on fun first mem second otherMem same => ?_
  have bounds := near_of_mem_cells mem otherMem
  simp only [Position.shift, Position.mk.injEq] at same
  have size : (UInt32.size : Int) = 4294967296 := rfl
  exact Prod.ext (Position.reduced_inj (by omega) (by omega) same.1)
    (Position.reduced_inj (by omega) (by omega) same.2)

@[simp]
theorem length_footprint (shape : Shape) (anchor : Position) :
    (shape.footprint anchor).length = shape.piece.size := by
  simp [footprint]

end Shape

theorem Grid.isFree_iff {grid : Grid} {position : Position} : grid.isFree position = true ↔
    ∃ cell : Cell, cell.position = position ∧ grid.owner cell = .empty := by
  rw [Grid.isFree, Grid.get?, beq_iff_eq, Option.map_eq_some_iff]
  constructor
  · rintro ⟨cell, found, free⟩
    exact ⟨cell, Position.position_of_cell? found, free⟩
  · rintro ⟨cell, rfl, free⟩
    exact ⟨cell, Position.cell?_position cell, free⟩

/-- Squares are enough for a placement if all that it covers are empty squares of the board. -/
theorem LegalityRule.occupancy_iff {shape : Shape} {anchor : Position} {grid : Grid} :
    occupancy shape anchor grid = true ↔ ∀ position ∈ shape.footprint anchor,
      ∃ cell : Cell, cell.position = position ∧ grid.owner cell = .empty := by
  simp only [occupancy, List.all_eq_true, Grid.isFree_iff]

end TileMatch
