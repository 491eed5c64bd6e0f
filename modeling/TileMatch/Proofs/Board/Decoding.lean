import TileMatch.Board.Reconciler
import TileMatch.Failure
import TileMatch.Proofs.FirstFailure

/-!
# Decoding a snapshot

A snapshot that is no board is refused for its dimensions or, if these are right, for the first
unknown code in row-major order: `Snapshot.failure?_decode`. One that can be decoded has the board's
dimensions afterwards as well, so that the reconciler accepts it: nothing but the decoding refuses a
snapshot.
-/

namespace TileMatch

/-- The codes of squares. -/
def CellOwner.IsCode (code : Int) : Prop := -1 ≤ code ∧ code ≤ 4

instance (code : Int) : Decidable (CellOwner.IsCode code) := inferInstanceAs (Decidable (_ ∧ _))

theorem CellOwner.isSome_ofCode?_iff (code : Int) :
    (ofCode? code).isSome = true ↔ IsCode code := by
  unfold ofCode? IsCode Slot.ofServer
  split
  case isTrue => simp_all
  case isFalse notEmpty =>
    split
    case isTrue => simp_all
    case isFalse notObstacle =>
      split
      case isTrue inRange => simp [Except.toOption]; omega
      case isFalse outside => simp [Except.toOption]; omega

namespace Snapshot

theorem failure?_decodeCell (row column : Nat) (code : Int) :
    failure? (decodeCell row column code) =
      if CellOwner.IsCode code then none else some (.invalidCell row column code) := by
  have known := CellOwner.isSome_ofCode?_iff code
  unfold decodeCell
  split
  case h_1 owner found => simp [← known, found]
  case h_2 missing => simp [← known, missing]

/-- What is wrong with a snapshot: the dimensions, or the first code in row-major order that is not
one. -/
theorem failure?_decode (rows : List (List Int)) : failure? (decode rows) =
    if HasBoardSize rows then
      rows.zipIdx.findSome? fun entry => entry.1.zipIdx.findSome? fun cell =>
        if CellOwner.IsCode cell.1 then none else some (.invalidCell entry.2 cell.2 cell.1)
    else some (.malformed rows.length (widest rows)) := by
  unfold decode checkSize
  split
  case isTrue =>
    refine (failure?_mapM _ _).trans ?_
    simp only [decodeRow, failure?_mapM, failure?_decodeCell]
  case isFalse => rfl

/-- As a failure of synchronization the bad code is named without its place. -/
theorem ofBoardError_failure?_decode (rows : List (List Int)) :
    (failure? (decode rows)).map SyncError.ofBoardError =
      if HasBoardSize rows then
        (rows.flatten.find? fun code => ¬CellOwner.IsCode code).map SyncError.invalidSlot
      else some (.malformedBoard rows.length (widest rows)) := by
  have firstOfRow (row : Nat) (codes : List Int) :
      Option.map SyncError.ofBoardError (codes.zipIdx.findSome? fun cell =>
        if CellOwner.IsCode cell.1 then none else some (.invalidCell row cell.2 cell.1)) =
      (codes.find? fun code => ¬CellOwner.IsCode code).map SyncError.invalidSlot := by
    rw [List.map_findSome?, ← List.findSome?_guard, List.map_findSome?]
    refine Eq.trans ?_ (findSome?_zipIdx _ codes)
    refine congrArg (List.findSome? · codes.zipIdx) (funext fun cell => ?_)
    by_cases known : CellOwner.IsCode cell.1 <;> simp [known, Option.guard, SyncError.ofBoardError]
  rw [failure?_decode]
  split
  case isTrue =>
    rw [List.map_findSome?, List.find?_flatten, List.map_findSome?]
    refine Eq.trans ?_ (findSome?_zipIdx _ rows)
    exact congrArg (List.findSome? · rows.zipIdx) (funext fun entry => firstOfRow entry.2 entry.1)
  case isFalse => rfl

/-- A decoded snapshot has the dimensions of the board. -/
theorem hasBoardSize_of_decode {rows : List (List Int)} {owners : List (List CellOwner)}
    (decoded : decode rows = .ok owners) : HasBoardSize owners := by
  unfold decode checkSize at decoded
  split at decoded
  case isTrue fits =>
    have rowsDecoded : rows.zipIdx.mapM (fun entry => decodeRow entry.2 entry.1) = .ok owners :=
      decoded
    refine ⟨?_, fun row row_mem => ?_⟩
    · rw [length_of_mapM rowsDecoded, List.length_zipIdx, fits.1]
    · have found : Except.ok (ε := BoardError) row ∈ owners.map .ok := List.mem_map_of_mem row_mem
      rw [← map_eq_of_mapM rowsDecoded, List.mem_map] at found
      rcases found with ⟨⟨codes, index⟩, entry_mem, rowDecoded⟩
      rw [length_of_mapM rowDecoded, List.length_zipIdx]
      exact fits.2 codes (List.fst_mem_of_mem_zipIdx entry_mem)
  case isFalse => cases decoded

end Snapshot

namespace Reconciler

/-- Only what cannot be decoded is refused. -/
theorem failure?_decode_applySnapshot (board : Reconciler) (rows : List (List Int)) :
    failure? (Snapshot.decode rows >>= board.applySnapshot) = failure? (Snapshot.decode rows) := by
  apply failure?_bind
  intro owners decoded
  unfold applySnapshot Grid.ofRows Snapshot.checkSize
  rw [if_pos (Snapshot.hasBoardSize_of_decode decoded)]
  exact ⟨_, rfl⟩

end Reconciler

end TileMatch
