import TileMatch.Board.Reconciler
import TileMatch.Prediction
import TileMatch.Room

/-!
# The session of a match

A `Session` is everything that a client knows about the match it takes part in: the room, the board,
the turn, the local placement and the requests in flight. Every call is a function from a session
to a session, the effects of the call in their order, and its answer; nothing is shared and time is
an argument.

This file holds the session, how it begins and how it ends, and the steps that the handling of
events, of inputs and of the clock have in common.
-/

namespace TileMatch

/-- The times that a session is configured with. -/
structure Timing where
  /-- How long to wait for a turn change after the local turn has expired. -/
  grace : Duration
  /-- How long an unanswered request is held. -/
  lifetime : Duration
  /-- The length of a turn when the server does not say it. -/
  defaultTurn : Duration
  deriving DecidableEq, Repr

namespace Timing

/-- The times of a session that is not configured. -/
def standard : Timing :=
  ⟨TurnClock.defaultGrace, Ledger.defaultLifetime, TurnClock.defaultDuration⟩

end Timing

/-- What a call does outside the session: it tells the observers something or sends a request. -/
inductive Effect where
  | tell (event : UiEvent)
  | send (request : OutboundRequest)
  deriving DecidableEq, Repr

namespace Effect

/-- What the observers are told, if that is what the effect does. -/
def event? : Effect → Option UiEvent
  | tell event => some event
  | send _ => none

/-- The request that is sent, if that is what the effect does. -/
def request? : Effect → Option OutboundRequest
  | tell _ => none
  | send request => some request

/-- Squares are redrawn. -/
def ofChanges (changes : List CellChange) : List Effect :=
  changes.map fun change => tell (.cell change.position change.owner)

/-- A failure is shown, if it is one of those that are. -/
def surface (error : SyncError) : List Effect :=
  if error.isUserFacing then [tell (.error error)] else []

/-- A preview disappears, if there was one. -/
def clearing (prediction : Prediction) : List Effect :=
  if prediction.isIdle then [] else [tell .previewCleared]

end Effect

/-- The state of a match as one client sees it. -/
structure Session where
  legality : LegalityRule
  defaultTurn : Duration
  room : Room
  board : Reconciler
  turn : TurnClock
  prediction : Prediction
  ledger : Ledger
  closed : Bool

namespace Session

/-- The session of a player who has joined a room in a seat given in server numbering. -/
def join (roomId : String) (localSlot : Int) (timing : Timing) (legality : LegalityRule) :
    Except SyncError Session :=
  match Slot.ofServer localSlot with
  | .error error => .error (.ofSlotError error)
  | .ok slot => .ok {
      legality
      defaultTurn := timing.defaultTurn
      room := .empty roomId
      board := .start
      turn := .start slot timing.grace
      prediction := .idle
      ledger := .empty timing.lifetime
      closed := false }

/-- The seat of the local player. -/
def localSlot (session : Session) : Slot := session.turn.localSlot

/-- The live grid. -/
def grid (session : Session) : Grid := session.board.grid

/-- Closes the session: the placement, the requests in flight, the turn, the board and the roster
are all given up. -/
def teardown (session : Session) : Session × List Effect :=
  ({ session with
      room := .empty session.room.roomId
      board := session.board.reset.1
      turn := session.turn.reset
      prediction := .idle
      ledger := session.ledger.clear
      closed := true },
    Effect.clearing session.prediction)

/-- Asks for a full snapshot unless one has already been asked for. -/
def askForSnapshot (session : Session) (now : Instant) : Session × List Effect :=
  match session.ledger.begin? (.resync session.localSlot) now with
  | none => (session, [])
  | some ledger => ({ session with ledger }, [.send .resync])

/-- Passes for the local player unless a pass is already in flight. -/
def passTurn (session : Session) (now : Instant) : Session × List Effect :=
  match session.ledger.begin? (.pass session.localSlot) now with
  | none => (session, [])
  | some ledger => ({ session with ledger }, [.send .pass])

/-- Whether asking for a snapshot panics. -/
def askPanics (session : Session) (now : Instant) : Bool :=
  session.ledger.panics (.resync session.localSlot) now

/-- Whether passing for the local player panics. -/
def passPanics (session : Session) (now : Instant) : Bool :=
  session.ledger.panics (.pass session.localSlot) now

/-- Drops a preview because the local turn is lost. -/
def loseTurn (session : Session) : Session × List Effect :=
  ({ session with prediction := session.prediction.afterTurnLost },
    if session.prediction.preview?.isSome then [.tell .previewCleared] else [])

/-- Acts on one signal of the turn clock. -/
def obey (session : Session) (now : Instant) : TurnSignal → Session × List Effect
  | .display slot seconds => (session, [.tell (.turnDisplay (some slot) seconds)])
  | .previousTimedOut previous => (session, [.tell (.notice (.previousTurnTimedOut previous))])
  | .localExpired =>
    let (session, cleared) := session.loseTurn
    let (session, passed) := session.passTurn now
    (session, cleared ++ passed)
  | .desync waited =>
    let (session, asked) := session.askForSnapshot now
    (session, Effect.surface (.desyncDetected waited) ++ asked)

/-- Acts on the signals of the turn clock in their order. -/
def obeyAll (session : Session) (now : Instant) : List TurnSignal → Session × List Effect
  | [] => (session, [])
  | signal :: rest =>
    let (session, effects) := session.obey now signal
    let (session, later) := session.obeyAll now rest
    (session, effects ++ later)

/-- Whether acting on one signal panics. -/
def obeyPanics (session : Session) (now : Instant) : TurnSignal → Bool
  | .display _ _ | .previousTimedOut _ => false
  | .localExpired => session.loseTurn.1.passPanics now
  | .desync _ => session.askPanics now

/-- Whether acting on signals in their order panics. -/
def obeyAllPanics (session : Session) (now : Instant) : List TurnSignal → Bool
  | [] => false
  | signal :: rest =>
    session.obeyPanics now signal || (session.obey now signal).1.obeyAllPanics now rest

end Session

end TileMatch
