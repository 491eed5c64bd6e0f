import TileMatch.Proofs.Piece
import TileMatch.Proofs.Room.Standing
import TileMatch.Proofs.Session.InputRefusal
import TileMatch.Proofs.Session.PlacementBroadcast

/-!
# A prediction that comes true

A preview is legal under the rule of occupancy if all that its shape covers are empty squares of the
board. These are different squares, as many as the piece has (`Shape.nodup_footprint`,
`Shape.length_footprint`). So when the server places what was previewed on a board that is still the
same, each listed square is gained (`Session.fills_of_free`): what the board, the observers and the
roster show afterwards is what the piece counts, however the points are reckoned. Only a score that
would outgrow its width does not show it (`Session.placing_panics_iff`).
-/

namespace TileMatch

namespace Session

/-- A placement gives a seat the squares at some positions, which were empty, and no other square
changes hands. They are redrawn, each once, and each of them is a point for the player in the
seat, as far as a score goes. -/
structure Fills (before : Session) (placed : Handled) (slot : Slot) (positions : List Position)
    (count : Nat) : Prop where
  answer : placed.answer = .ok ()
  length_changed : (before.grid.changed placed.session.grid).length = count
  position_changed :
    ((before.grid.changed placed.session.grid).map Cell.position).Perm positions
  owner_changed : ∀ cell ∈ before.grid.changed placed.session.grid,
    before.grid.owner cell = .empty ∧ placed.session.grid.owner cell = .owned slot
  length_redrawn : (Effect.redrawn placed.effects).length = count
  redrawn : (Effect.redrawn placed.effects).Perm
    ((before.grid.changed placed.session.grid).map fun cell => ⟨cell.position, .owned slot⟩)
  countOwned : placed.session.grid.countOwned slot = before.grid.countOwned slot + count
  score : ∀ player, before.room.player? slot = some player →
    ∃ scored, placed.session.room.player? slot = some scored ∧
      IsScoreOf scored.score (player.score.toNat + count)

variable {session : Session}

/-! ## A placement over empty squares -/

theorem score_cellsPlaced {slot : Slot} {player : Player}
    (seated : session.room.player? slot = some player) (cells : List Position) (points : Nat) :
    ∃ scored, (session.cellsPlaced slot cells points).1.room.player? slot = some scored ∧
      IsScoreOf scored.score (player.score.toNat + points) := by
  have recorded := session.room.player?_modify slot slot fun player =>
    { player with
      remainingPieces := player.remainingPieces - 1
      score := player.score + .ofNat points }
  rw [if_pos rfl, seated] at recorded
  exact ⟨_, recorded, (IsScoreOf.toNat player.score).add points⟩

theorem fills_of_free (isOpen : session.closed = false) (slot : Slot) {cells : List Position}
    (distinct : cells.Nodup)
    (free : ∀ position ∈ cells, ∃ cell : Cell,
      cell.position = position ∧ session.grid.owner cell = .empty)
    {piece : Option Piece} {scoreGained : Option Nat}
    (points : pointsFor piece cells scoreGained = cells.length) (now : Instant) :
    session.Fills (session.handle (.cellsPlaced slot.toServer piece cells scoreGained) now) slot
      cells cells.length := by
  have changed : (session.grid.changed (session.cellsPlaced slot cells cells.length).1.grid).Perm
      (session.grid.gained cells (.owned slot)) := by
    rw [grid_cellsPlaced]
    exact session.grid.changed_placed_perm cells (.owned slot)
  have gained : ((session.grid.gained cells (.owned slot)).map Cell.position).Perm cells := by
    refine Grid.map_position_gained_perm distinct fun position listed => ?_
    rcases free position listed with ⟨cell, at_position, empty⟩
    exact ⟨cell, at_position, by simp [empty]⟩
  have number : (session.grid.gained cells (.owned slot)).length = cells.length := by
    simpa using gained.length_eq
  rw [handle_cellsPlaced isOpen, points]
  constructor
  case answer => rfl
  case length_changed => exact changed.length_eq.trans number
  case position_changed => exact (changed.map _).trans gained
  case owner_changed =>
    intro cell moved
    have listed := (Grid.mem_gained_iff.mp (changed.mem_iff.mp moved)).1
    rcases free _ listed with ⟨other, same, empty⟩
    rw [Cell.position_injective same] at empty
    exact ⟨empty, by simp [Handled.applied, owner_cellsPlaced, listed]⟩
  case length_redrawn =>
    simp only [Handled.applied, redrawn_cellsPlaced, List.length_map, number]
  case redrawn =>
    simp only [Handled.applied, redrawn_cellsPlaced]
    exact (changed.map _).symm
  case countOwned =>
    simp only [Handled.applied, grid_cellsPlaced, Grid.countOwned_placed, number]
  case score =>
    intro player seated
    exact score_cellsPlaced seated cells cells.length

/-! ## What was previewed -/

/-- A preview that is told as legal is on the board over empty squares, by the rule of occupancy. -/
theorem free_of_previewed (isOpen : session.closed = false) (rule : session.legality = .occupancy)
    {shape : Shape} {anchor : Position} {time : Instant} {cells : List Position}
    (shown : .tell (.preview cells .valid) ∈ (session.step (.select shape anchor time)).effects) :
    cells = shape.footprint anchor ∧ ∀ position ∈ shape.footprint anchor,
      ∃ cell : Cell, cell.position = position ∧ session.grid.owner cell = .empty := by
  have stepped := stepped_of_isOpen isOpen (.select shape anchor time)
  generalize session.step (.select shape anchor time) = outcome at stepped shown
  cases stepped with
  | selected _ _ _ preview free turnOpen made =>
      rw [rule] at made
      cases made
      cases legal : LegalityRule.occupancy shape anchor session.grid with
      | false => simp [Prediction.previewOf, legal] at shown
      | true =>
          refine ⟨?_, LegalityRule.occupancy_iff.mp legal⟩
          simpa [Prediction.previewOf, legal] using shown
  | selectRefused => cases shown

/-- For a placement of a shape, the size of its piece and the number of its squares are the same
points. -/
theorem pointsFor_footprint {shape : Shape} {anchor : Position} {listed : List Position}
    (same : listed.Perm (shape.footprint anchor)) {piece : Option Piece}
    (named : piece = none ∨ piece = some shape.piece) :
    pointsFor piece listed none = shape.piece.size ∧ listed.length = shape.piece.size := by
  have number : listed.length = shape.piece.size := by
    rw [same.length_eq, Shape.length_footprint]
  rcases named with rfl | rfl
  · exact ⟨number, number⟩
  · exact ⟨rfl, number⟩

/-- A placement that gains what a piece has panics exactly if the score of the player is checked and
outgrows its width. -/
theorem placing_panics_iff (isOpen : session.closed = false) (slot : Slot) {named : Option Piece}
    {listed : List Position} {piece : Piece} (points : pointsFor named listed none = piece.size)
    {arithmetic : Arithmetic} {now : Instant} :
    session.call? arithmetic (.handle (.cellsPlaced slot.toServer named listed none) now) = none ↔
      arithmetic = .checked ∧ ∃ player, session.room.player? slot = some player ∧
        UInt32.size ≤ player.score.toNat + piece.size := by
  have few : piece.size < UInt32.size := by cases piece <;> decide
  simp [call?_handle_eq_none_iff, RefusesBoard, outgrows, isOpen, Slot.ofServer_toServer, points,
    Room.outgrows, Option.any_eq_true, UInt32.toNat_ofNat_of_lt' few]

/-- A run that ends in the turn of a player who is seated. -/
def seatedInTurn : List Call :=
  [.handle (.playerJoined 1 "u" "n") 0,
    .handle (.turnChanged 1 none (.ofBits 0x41f00000) false 1) 1]

end Session

end TileMatch
