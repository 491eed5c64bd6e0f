import TileMatch.Proofs.Board.Encoding
import TileMatch.Proofs.Board.Placement
import TileMatch.Proofs.Session.KeysInFlight
import TileMatch.Proofs.Session.Picture

/-!
# Placements as they arrive

The server tells every client of a placement as a list of positions. Whatever the list is like, the
squares in it change hands, those that change are redrawn once each, and the local placement is
settled with its key (`Session.placement_broadcast_exact`).

A placement is written to the baseline as well. So a snapshot that only says what the board has
become finds nothing to redraw, now or as long as the board stays like this and no game starts:
the baseline is the live grid in every session that can be reached (`PictureInStep`), and only the
start of a game forgets it (`Session.baseline_after`).
-/

namespace TileMatch

namespace Session

variable {session : Session}

/-! ## Handling a placement -/

theorem handle_cellsPlaced (isOpen : session.closed = false) (slot : Slot) (piece : Option Piece)
    (cells : List Position) (scoreGained : Option Nat) (now : Instant) :
    session.handle (.cellsPlaced slot.toServer piece cells scoreGained) now =
      .applied (session.cellsPlaced slot cells (pointsFor piece cells scoreGained)) := by
  have notClosed : ¬session.closed = true := by simp [isOpen]
  simp only [handle, if_neg notClosed, atSeat, seatOf_eq_ok_iff.mpr slot.ofServer_toServer]

variable (session) (slot : Slot) (cells : List Position) (points : Nat)

theorem board_cellsPlaced : (session.cellsPlaced slot cells points).1.board =
    (session.board.applyCells (cells.map fun position => (position, .owned slot))).1 := rfl

theorem grid_cellsPlaced : (session.cellsPlaced slot cells points).1.grid =
    (cells.map fun position => (position, CellOwner.owned slot)).foldl Grid.write session.grid :=
  session.board.applyCells_grid _

theorem owner_cellsPlaced (cell : Cell) :
    (session.cellsPlaced slot cells points).1.grid.owner cell =
      if cell.position ∈ cells then .owned slot else session.grid.owner cell := by
  rw [grid_cellsPlaced, Grid.owner_placed]

/-- The squares gained are redrawn. -/
theorem redrawn_cellsPlaced : Effect.redrawn (session.cellsPlaced slot cells points).2 =
    (session.grid.gained cells (.owned slot)).map fun cell => ⟨cell.position, .owned slot⟩ := by
  have told : Effect.redrawn (session.cellsPlaced slot cells points).2 =
      (session.board.applyCells (cells.map fun position => (position, .owned slot))).2 := by
    simp [cellsPlaced]
  rw [told, Reconciler.applyCells_snd]
  rfl

theorem nodup_redrawn_cellsPlaced :
    (Effect.redrawn (session.cellsPlaced slot cells points).2).Nodup := by
  rw [redrawn_cellsPlaced]
  refine Grid.nodup_gained.map fun first second same => ?_
  exact Cell.position_injective (congrArg CellChange.position same)

theorem mem_redrawn_cellsPlaced_iff {change : CellChange} :
    change ∈ Effect.redrawn (session.cellsPlaced slot cells points).2 ↔ ∃ cell : Cell,
      cell.position ∈ cells ∧ session.grid.owner cell ≠ .owned slot ∧
        change = ⟨cell.position, .owned slot⟩ := by
  simp only [redrawn_cellsPlaced, List.mem_map, Grid.mem_gained_iff, and_assoc, eq_comm]

variable {session cells}

/-- The order of a list and repetitions in it make no difference to the board, and to what is
redrawn only that of the order. -/
theorem cellsPlaced_of_same_positions (inStep : session.board.InStep) {others : List Position}
    (same : ∀ position, position ∈ others ↔ position ∈ cells) (otherPoints : Nat) :
    (session.cellsPlaced slot others otherPoints).1.board =
        (session.cellsPlaced slot cells points).1.board ∧
      (Effect.redrawn (session.cellsPlaced slot others otherPoints).2).Perm
        (Effect.redrawn (session.cellsPlaced slot cells points).2) := by
  constructor
  · rw [board_cellsPlaced, board_cellsPlaced]
    refine (inStep.applyCells _).ext (inStep.applyCells _) ?_ ?_
    · ext cell
      simp only [Reconciler.applyCells_grid, Grid.owner_placed, same]
    · exact (Reconciler.baseline_applyCells _ _).trans (Reconciler.baseline_applyCells _ _).symm
  · rw [redrawn_cellsPlaced, redrawn_cellsPlaced]
    exact (Grid.gained_perm same).map _

/-! ## A snapshot of the same board -/

theorem handle_snapshot_of_grid (isOpen : session.closed = false)
    (inStep : session.board.InStep) (known : session.board.baseline ≠ none)
    {rows : List (List Int)} (same : Snapshot.decode rows = .ok session.grid.toRows)
    (now : Instant) : (session.handle (.boardSnapshot rows) now).answer = .ok () ∧
      (session.handle (.boardSnapshot rows) now).effects = [] := by
  have notClosed : ¬session.closed = true := by simp [isOpen]
  rcases session.boardSnapshot_of_decode same now with ⟨incoming, listed, applied⟩
  have incomingSame : incoming = session.board.grid := by
    have read := incoming.ofRows_toRows
    rw [listed, Grid.ofRows_toRows] at read
    exact (Except.ok.inj read).symm
  have nothing : (session.board.accept incoming).2 = [] := by
    simp [Reconciler.accept, inStep.staleCells_of_baseline known, incomingSame]
  have handled : session.handle (.boardSnapshot rows) now = session.boardSnapshot rows now :=
    if_neg notClosed
  rw [handled, applied, nothing]
  exact ⟨rfl, rfl⟩

/-- Only the start of a game forgets the baseline. -/
theorem baseline_after {calls : List Call} (known : session.board.baseline ≠ none)
    (isOpen : (session.after calls).closed = false)
    (noStart : ∀ moment ∈ session.history calls, ¬moment.Receives .gameStarted) :
    (session.after calls).board.baseline ≠ none := by
  induction calls generalizing session with
  | nil => exact known
  | cons call rest hypothesis =>
      simp only [history, List.forall_mem_cons] at noStart
      refine hypothesis ?_ isOpen noStart.2
      have law := Moment.baseline_iff ⟨session, call⟩ (isOpen_of_after isOpen)
      exact fun forgotten => (law.mp forgotten).2.elim noStart.1 known

/-- In a run that joined a room, a snapshot that only says what the board is like has no effects
once there is a baseline and until a game starts. -/
theorem handle_snapshot_of_same {roomId : String} {number : Int} {timing : Timing}
    {legality : LegalityRule} (joined : join roomId number timing legality = .ok session)
    {calls later : List Call} (known : (session.after calls).board.baseline ≠ none)
    (isOpen : ((session.after calls).after later).closed = false)
    (noStart : ∀ moment ∈ (session.after calls).history later, ¬moment.Receives .gameStarted)
    {rows : List (List Int)}
    (same : Snapshot.decode rows = .ok ((session.after calls).after later).grid.toRows)
    (now : Instant) :
    let taken := ((session.after calls).after later).handle (.boardSnapshot rows) now
    taken.answer = .ok () ∧ taken.effects = [] := by
  have inStep : ((session.after calls).after later).board.InStep := by
    rw [← after_append] at isOpen ⊢
    exact (pictureInStep_after joined _ isOpen).inStep
  exact handle_snapshot_of_grid isOpen inStep (baseline_after known isOpen noStart) same now

/-- A placement that reaches an open session of a run which joined a room is carried out whatever
positions it lists, and the session stays open. The listed squares of the board belong to its seat
afterwards, and every other square is as it was. Exactly the listed squares that belonged to another
owner are redrawn, each once. The same positions in another order, or other repetitions of them,
lead to the same board and redraw the same squares. Nothing is pending locally afterwards, and no
key of a placement is held. And if there was a baseline, a snapshot with the same board has no
effects, right away or as long as no game starts and the board is still the same. -/
theorem placement_broadcast_exact {roomId : String} {number : Int} {timing : Timing}
    {legality : LegalityRule} (joined : join roomId number timing legality = .ok session)
    (calls : List Call) (isOpen : (session.after calls).closed = false) (slot : Slot)
    (piece : Option Piece) (cells : List Position) (scoreGained : Option Nat) (now : Instant) :
    let before := session.after calls
    let placed := before.handle (.cellsPlaced slot.toServer piece cells scoreGained) now
    placed.answer = .ok () ∧
    placed.session.closed = false ∧
    (∀ cell, placed.session.grid.owner cell =
      if cell.position ∈ cells then .owned slot else before.grid.owner cell) ∧
    (Effect.redrawn placed.effects).Nodup ∧
    (∀ change, change ∈ Effect.redrawn placed.effects ↔ ∃ cell : Cell,
      cell.position ∈ cells ∧ before.grid.owner cell ≠ .owned slot ∧
        change = ⟨cell.position, .owned slot⟩) ∧
    (∀ others, (∀ position, position ∈ others ↔ position ∈ cells) →
      let again := before.handle (.cellsPlaced slot.toServer piece others scoreGained) now
      again.session.board = placed.session.board ∧
        (Effect.redrawn again.effects).Perm (Effect.redrawn placed.effects)) ∧
    placed.session.prediction = .idle ∧
    (∀ key, key.operation = .placement → placed.session.ledger.holds key = false) ∧
    (before.board.baseline ≠ none → ∀ later, (placed.session.after later).closed = false →
      (∀ moment ∈ placed.session.history later, ¬moment.Receives .gameStarted) →
      (placed.session.after later).grid = placed.session.grid →
      ∀ rows time, Snapshot.decode rows = .ok placed.session.grid.toRows →
        let taken := (placed.session.after later).handle (.boardSnapshot rows) time
        taken.answer = .ok () ∧ taken.effects = []) := by
  intro before placed
  have applied (listed : List Position) :=
    handle_cellsPlaced isOpen slot piece listed scoreGained now
  have carriedOut : placed = .applied (before.cellsPlaced slot cells _) := applied cells
  have inStep := (pictureInStep_after joined calls isOpen).inStep
  refine ⟨?_, ?_, ?_, ?_, ?_, ?_, ?_, ?_, ?_⟩
  · rw [carriedOut]
    rfl
  · rw [carriedOut]
    exact isOpen
  · intro cell
    rw [carriedOut]
    exact before.owner_cellsPlaced slot cells _ cell
  · rw [carriedOut]
    exact before.nodup_redrawn_cellsPlaced slot cells (pointsFor piece cells scoreGained)
  · rw [carriedOut]
    intro change
    exact before.mem_redrawn_cellsPlaced_iff slot cells (pointsFor piece cells scoreGained)
  · intro others same again
    rw [carriedOut, show again = _ from applied others]
    exact cellsPlaced_of_same_positions slot _ inStep same _
  · rw [carriedOut]
    rfl
  · intro key kind
    have keys := (KeysInStep.after_join joined calls).step
      (.handle (.cellsPlaced slot.toServer piece cells scoreGained) now)
    refine keys.not_holds_placement ?_ kind
    rw [show (before.step _).session = placed.session from rfl, carriedOut]
    rfl
  · intro known later stillOpen noStart same rows time decoded taken
    have onward : placed.session = session.after
        (calls ++ [.handle (.cellsPlaced slot.toServer piece cells scoreGained) now]) := by
      rw [after_append]
      rfl
    have knownAfter : placed.session.board.baseline ≠ none := by
      rw [carriedOut]
      exact fun forgotten => known ((Reconciler.baseline_applyCells _ _).mp forgotten)
    rw [← same] at decoded
    simp only [taken]
    rw [onward] at knownAfter stillOpen noStart decoded ⊢
    exact handle_snapshot_of_same joined knownAfter stillOpen noStart decoded time

/-- A run that takes over a snapshot and then shows a preview. -/
def previewOnSnapshot : List Call :=
  [.handle (.boardSnapshot (Snapshot.encode Grid.empty.toRows)) 0,
    .handle (.turnChanged 1 none (.ofBits 0x41f00000) false 1) 1,
    .select ⟨.domino, .none, .none⟩ ⟨0, 0⟩ 2]

/-- A placement that names a square three times and two positions beside the board. -/
theorem placement_of_repeated_square : ∃ session,
    join "room" 1 .standard .occupancy = .ok session ∧
    let before := session.after previewOnSnapshot
    let placed := before.handle
      (.cellsPlaced (Slot.mk 1).toServer none
        [⟨0, 0⟩, ⟨20, 3⟩, ⟨0, 0⟩, ⟨5, -6⟩, ⟨0, 0⟩] none) 3
    before.closed = false ∧ before.board.baseline ≠ none ∧
      Effect.redrawn placed.effects = [⟨⟨0, 0⟩, .owned ⟨1⟩⟩] ∧ placed.session.prediction = .idle ∧
      ((placed.session.step (.tick 4)).session.handle
        (.boardSnapshot (Snapshot.encode placed.session.grid.toRows)) 5).effects = [] := by
  have joined : join "room" 1 .standard .occupancy = .ok _ := rfl
  refine ⟨_, joined, ?_⟩
  intro before placed
  have isOpen : before.closed = false := rfl
  have known : before.board.baseline ≠ none := Option.some_ne_none _
  have law := placement_broadcast_exact joined previewOnSnapshot isOpen ⟨1⟩ none
    [⟨0, 0⟩, ⟨20, 3⟩, ⟨0, 0⟩, ⟨5, -6⟩, ⟨0, 0⟩] none 3
  rcases law with ⟨_, placedOpen, _, _, _, _, idle, _, silent⟩
  refine ⟨isOpen, known, by decide +kernel, idle, ?_⟩
  have kept : (placed.session.step (.tick 4)).session.shared = placed.session.shared :=
    placed.session.shared_step_of_local nofun nofun
  have stillOpen : (placed.session.after [.tick 4]).closed = false :=
    (congrArg (·.closed) kept).trans placedOpen
  have same : (placed.session.after [.tick 4]).grid = placed.session.grid :=
    congrArg (·.board.grid) kept
  refine (silent known [.tick 4] stillOpen ?_ same _ 5
    (Snapshot.decode_encode placed.session.grid.hasBoardSize_toRows)).2
  intro moment made
  rw [List.mem_singleton.mp made]
  rintro ⟨_, ⟨handled, _⟩ | ⟨impossible, _⟩⟩
  · cases handled
  · cases impossible

end Session

end TileMatch
