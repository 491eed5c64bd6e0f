import TileMatch.Session

/-!
# Handling the events of the server

`Session.handle` applies one event. It fails only for an event that is dropped: one that names a
seat which does not exist, or a snapshot that is no board. What the player is to know of goes to
the observers instead. Seats are changed from server numbering here and nowhere else.
-/

namespace TileMatch

namespace Session

/-- What an event leads to. -/
structure Handled where
  session : Session
  effects : List Effect
  answer : Except SyncError Unit

/-- An event that has been applied. -/
def Handled.applied (result : Session × List Effect) : Handled := ⟨result.1, result.2, .ok ()⟩

/-- An event that is dropped. -/
def Handled.dropped (session : Session) (error : SyncError) : Handled := ⟨session, [], .error error⟩

/-- A seat for a number of the server. -/
def seatOf (number : Int) : Except SyncError Slot :=
  match Slot.ofServer number with
  | .ok slot => .ok slot
  | .error error => .error (.ofSlotError error)

/-- Applies an event about a seat, or drops it when there is no such seat. -/
def atSeat (session : Session) (number : Int) (apply : Slot → Session × List Effect) : Handled :=
  match seatOf number with
  | .ok slot => .applied (apply slot)
  | .error error => .dropped session error

/-- The room after seating the listed players one after the other, and the last of them that is
flagged as host. -/
def seatEntries (room : Room) (host : Option Slot) :
    List SeatEntry → Except SyncError (Room × Option Slot)
  | [] => .ok (room, host)
  | entry :: rest =>
    match seatOf entry.slot with
    | .error error => .error error
    | .ok slot =>
      let room := (room.seat slot entry.userId entry.displayName).setReady slot entry.ready
      seatEntries room (if entry.isHost then some slot else host) rest

/-- The room that a list of seated players describes. -/
def roomOf (roomId : String) (players : List SeatEntry) : Except SyncError Room :=
  match seatEntries (.empty roomId) none players with
  | .error error => .error error
  | .ok (room, none) => .ok room
  | .ok (room, some host) => .ok (room.setHost host)

/-- The room is as the list of seated players says. -/
def roomJoined (session : Session) (roomId : String) (players : List SeatEntry) : Handled :=
  match roomOf roomId players with
  | .error error => .dropped session error
  | .ok room => .applied ({ session with room }, [])

/-- A game starts on an empty board. -/
def gameStarted (session : Session) : Session × List Effect :=
  let (board, cleared) := session.board.reset
  ({ session with
      room := session.room.startGame
      board
      turn := session.turn.startGame
      prediction := .idle
      ledger := session.ledger.clear },
    Effect.ofChanges cleared ++ Effect.clearing session.prediction ++
      [.tell (.notice .gameStarted)])

/-- The placement is given up because the turn has moved on unanswered. -/
def releaseConfirmed (session : Session) : Session × List Effect :=
  match session.prediction.confirmedKey? with
  | none => (session, [])
  | some key =>
    ({ session with
        prediction := session.prediction.afterTurnChange
        ledger := session.ledger.release key },
      [.tell .previewCleared])

/-- A turn begins. -/
def turnChanged (session : Session) (change : TurnClock.Change) (now : Instant) :
    Session × List Effect :=
  let (turn, signals) := session.turn.change change now
  let room := if session.turn.phase = .waiting then session.room.startGame else session.room
  let ledger := session.ledger.release (.pass session.localSlot)
  let (session, released) := releaseConfirmed { session with room, turn, ledger }
  let (session, lost) :=
    if change.slot = session.localSlot then (session, []) else session.loseTurn
  let (session, told) := session.obeyAll now signals
  (session, released ++ lost ++ told)

/-- The whole board arrives. A snapshot that is no board is dropped, and another is asked for. -/
def boardSnapshot (session : Session) (rows : List (List Int)) (now : Instant) : Handled :=
  let answered := { session with ledger := session.ledger.release (.resync session.localSlot) }
  match Snapshot.decode rows >>= answered.board.applySnapshot with
  | .ok (board, changes) => .applied ({ answered with board }, Effect.ofChanges changes)
  | .error error =>
    let (session, asked) := answered.askForSnapshot now
    ⟨session, asked, .error (.ofBoardError error)⟩

/-- Whether the arrival of a board panics: it is dropped, and asking for another panics. -/
def snapshotPanics (session : Session) (rows : List (List Int)) (now : Instant) : Bool :=
  let answered := { session with ledger := session.ledger.release (.resync session.localSlot) }
  match Snapshot.decode rows >>= answered.board.applySnapshot with
  | .ok _ => false
  | .error _ => answered.askPanics now

/-- The squares of a placement belong to a seat. Whatever the local player had placed or previewed
is settled by it. -/
def cellsPlaced (session : Session) (slot : Slot) (cells : List Position) (gained : Nat) :
    Session × List Effect :=
  let (board, changes) :=
    session.board.applyCells (cells.map fun position => (position, .owned slot))
  let answered := match session.prediction.confirmedKey? with
    | some key => session.ledger.release key
    | none => session.ledger
  let ledger :=
    if slot = session.localSlot then answered.releaseAll .placement session.localSlot else answered
  ({ session with
      board
      room := session.room.recordPlacement slot gained
      prediction := .idle
      ledger },
    Effect.clearing session.prediction ++ Effect.ofChanges changes)

/-- The points for a placement: as the server says, else the size of the piece, else the number of
squares. -/
def pointsFor (piece : Option Piece) (cells : List Position) (scoreGained : Option Nat) : Nat :=
  (scoreGained.or (piece.map Piece.size)).getD cells.length

/-- The server refuses the local player's placement. -/
def placementRejected (session : Session) (reason : RejectionReason) : Session × List Effect :=
  let ledger := match session.prediction.confirmedKey? with
    | some key => session.ledger.release key
    | none => session.ledger.releaseAll .placement session.localSlot
  ({ session with prediction := .idle, ledger },
    .tell .previewCleared :: Effect.surface (.placementRejected reason))

/-- Total scores for seats, if all of them exist. -/
def scoresOf : List (Int × Nat) → Except SyncError (List (Slot × Nat))
  | [] => .ok []
  | (number, score) :: rest =>
    match seatOf number with
    | .error error => .error error
    | .ok slot => (scoresOf rest).map ((slot, score) :: ·)

/-- Total scores arrive. -/
def scoresUpdated (session : Session) (scores : List (Int × Nat)) : Handled :=
  match scoresOf scores with
  | .error error => .dropped session error
  | .ok scores => .applied ({ session with room := session.room.applyScores scores }, [])

/-- The winner for a number of the server; a number that names no seat counts as a draw. -/
def winnerOf (winner : Option Int) : Option Slot :=
  winner.bind fun number => (Slot.ofServer number).toOption

/-- The game ends. -/
def gameEnded (session : Session) (winner : Option Slot) : Session × List Effect :=
  ({ session with
      room := session.room.endGame
      turn := session.turn.endGame winner
      prediction := .idle
      ledger := session.ledger.clear },
    Effect.clearing session.prediction ++
      [.tell (.turnDisplay none 0), .tell (.notice (.gameEnded winner))])

/-- The connection is lost. -/
def disconnected (session : Session) (reason : DisconnectReason) : Session × List Effect :=
  let (session, effects) := session.teardown
  (session, effects ++ Effect.surface (.disconnected reason))

/-- The change of the room that an event about a seat makes. -/
def withRoom (session : Session) (room : Room) : Session × List Effect :=
  ({ session with room }, [])

/-- Applies one event of the server. A closed session ignores it. -/
def handle (session : Session) (event : ServerEvent) (now : Instant) : Handled :=
  if session.closed then .applied (session, [])
  else match event with
  | .roomJoined roomId players => session.roomJoined roomId players
  | .playerJoined number userId displayName =>
    session.atSeat number fun slot => session.withRoom (session.room.seat slot userId displayName)
  | .playerLeft number =>
    session.atSeat number fun slot => session.withRoom (session.room.remove slot)
  | .playerReady number ready =>
    session.atSeat number fun slot => session.withRoom (session.room.setReady slot ready)
  | .hostChanged number =>
    session.atSeat number fun slot => session.withRoom (session.room.setHost slot)
  | .gameStarted => .applied session.gameStarted
  | .turnChanged number turnTime remaining previousTimedOut turnNumber =>
    session.atSeat number fun slot =>
      session.turnChanged
        { slot
          duration := (turnTime.map Duration.ofSingle).getD session.defaultTurn
          remaining := Duration.ofSingle remaining
          previousTimedOut
          number := turnNumber }
        now
  | .boardSnapshot rows => session.boardSnapshot rows now
  | .cellsPlaced number piece cells scoreGained =>
    session.atSeat number fun slot =>
      session.cellsPlaced slot cells (pointsFor piece cells scoreGained)
  | .placementRejected code => .applied (session.placementRejected (.ofCode code))
  | .scoresUpdated scores => session.scoresUpdated scores
  | .gameEnded winner => .applied (session.gameEnded (winnerOf winner))
  | .disconnected code => .applied (session.disconnected (.ofCode code))
  | .roomLeft => .applied session.teardown

end Session

end TileMatch
