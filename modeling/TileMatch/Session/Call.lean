import TileMatch.Session.Handling

/-!
# The calls of a session

Beside the events of the server a session takes the inputs of the local player, ticks of the clock,
requests for a snapshot and the wish to leave. A `Call` is any of these with the time at which it is
made, `Session.step` makes one call and `Session.run` makes a list of them, so that facts about a
whole match are facts about a list.

A call may panic instead of returning, and with it the program ends: when it begins a request whose
key would outlast the clock, and in a program that checks its arithmetic when a number outgrows its
width. `Session.step` says what the call leads to otherwise, and `Session.call?` is both together.
-/

namespace TileMatch

namespace Session

/-- Shows a shape at an anchor as a preview. -/
def select (session : Session) (shape : Shape) (anchor : Position) (now : Instant) :
    Session × List Effect × Except PredictionError Unit :=
  if session.closed then (session, [], .error .sessionClosed)
  else
    match session.prediction.select session.turn session.legality session.grid shape anchor now with
    | .error error => (session, [], .error error)
    | .ok preview =>
      ({ session with prediction := .previewing preview },
        [.tell (.preview preview.cells (if preview.locallyValid then .valid else .invalid))],
        .ok ())

/-- Sends the active preview. -/
def confirm (session : Session) (now : Instant) :
    Session × List Effect × Except PredictionError PlacementRequest :=
  if session.closed then (session, [], .error .sessionClosed)
  else
    let result := session.prediction.confirm session.localSlot session.turn session.ledger now
    let effects := match result.answer with
      | .ok request => [.send (.placement request)]
      | .error .staleTurnAttempt => [.tell .previewCleared]
      | .error _ => []
    ({ session with prediction := result.prediction, ledger := result.ledger }, effects,
      result.answer)

/-- Discards the active preview. -/
def cancel (session : Session) : Session × List Effect × Except PredictionError Unit :=
  if session.closed then (session, [], .error .sessionClosed)
  else
    match session.prediction.cancel with
    | .error error => (session, [], .error error)
    | .ok prediction => ({ session with prediction }, [.tell .previewCleared], .ok ())

/-- Lets the time pass: drops keys that have run out, then acts on the turn clock. -/
def tick (session : Session) (now : Instant) : Session × List Effect :=
  if session.closed then (session, [])
  else
    let (turn, signals) := session.turn.tick now
    obeyAll { session with turn, ledger := session.ledger.sweep now } now signals

/-- Asks for a full snapshot; answers whether it was asked for. -/
def requestResync (session : Session) (now : Instant) : Session × List Effect × Bool :=
  if session.closed then (session, [], false)
  else
    let (session, effects) := session.askForSnapshot now
    (session, effects, !effects.isEmpty)

/-- Leaves the room. -/
def leave (session : Session) : Session × List Effect :=
  if session.closed then (session, []) else session.teardown

end Session

/-- A call of a session. -/
inductive Call where
  | handle (event : ServerEvent) (now : Instant)
  | select (shape : Shape) (anchor : Position) (now : Instant)
  | confirm (now : Instant)
  | cancel
  | tick (now : Instant)
  | requestResync (now : Instant)
  | leave
  deriving DecidableEq, Repr

namespace Call

/-- The time at which the call is made; cancelling and leaving know none. -/
def time? : Call → Option Instant
  | handle _ now | select _ _ now | confirm now | tick now | requestResync now => some now
  | cancel | leave => none

end Call

/-- What a call answers. -/
inductive Answer where
  | handled (result : Except SyncError Unit)
  | input (result : Except PredictionError Unit)
  | confirmed (result : Except PredictionError PlacementRequest)
  | requested (sent : Bool)
  | done

/-- The call that a recorded input makes. -/
def LocalInput.call (now : Instant) : LocalInput → Call
  | .select piece rotation flip anchor => .select ⟨piece, rotation, flip⟩ anchor now
  | .confirm => .confirm now
  | .cancel => .cancel

/-- How a program deals with numbers that outgrow their width, which is settled when it is built. -/
inductive Arithmetic where
  /-- It panics. -/
  | checked
  /-- It reduces the number to its width. -/
  | wrapping
  deriving DecidableEq, Repr

namespace Session

/-- What one call leads to. -/
structure Outcome where
  session : Session
  effects : List Effect
  answer : Answer

/-- Makes one call. -/
def step (session : Session) : Call → Outcome
  | .handle event now =>
    let result := session.handle event now
    ⟨result.session, result.effects, .handled result.answer⟩
  | .select shape anchor now =>
    let (session, effects, answer) := session.select shape anchor now
    ⟨session, effects, .input answer⟩
  | .confirm now =>
    let (session, effects, answer) := session.confirm now
    ⟨session, effects, .confirmed answer⟩
  | .cancel =>
    let (session, effects, answer) := session.cancel
    ⟨session, effects, .input answer⟩
  | .tick now =>
    let (session, effects) := session.tick now
    ⟨session, effects, .done⟩
  | .requestResync now =>
    let (session, effects, sent) := session.requestResync now
    ⟨session, effects, .requested sent⟩
  | .leave =>
    let (session, effects) := session.leave
    ⟨session, effects, .done⟩

/-- Whether a call begins a request whose key would outlast the clock. -/
def outlastsClock (session : Session) (call : Call) : Bool :=
  !session.closed && match call with
    | .handle (.boardSnapshot rows) now => session.snapshotPanics rows now
    | .confirm now =>
      session.prediction.confirmPanics session.localSlot session.turn session.ledger now
    | .tick now =>
      let (turn, signals) := session.turn.tick now
      obeyAllPanics { session with turn, ledger := session.ledger.sweep now } now signals
    | .requestResync now => session.askPanics now
    | _ => false

/-- Whether a call computes a number that outgrows its width: a coordinate of a preview, or the
score of a player who has placed. -/
def outgrows (session : Session) (call : Call) : Bool :=
  !session.closed && match call with
    | .select shape anchor now =>
      !session.prediction.isAwaiting && session.turn.localTurnOpen now && shape.outgrows anchor
    | .handle (.cellsPlaced number piece cells scoreGained) _ =>
      match Slot.ofServer number with
      | .ok slot => session.room.outgrows slot (pointsFor piece cells scoreGained)
      | .error _ => false
    | _ => false

/-- Whether a call panics. -/
def panics (arithmetic : Arithmetic) (session : Session) (call : Call) : Bool :=
  session.outlastsClock call || (arithmetic = .checked && session.outgrows call)

/-- Makes one call, unless it panics. -/
def call? (arithmetic : Arithmetic) (session : Session) (call : Call) : Option Outcome :=
  if session.panics arithmetic call then none else some (session.step call)

/-- Whether calls that are made one after the other all return. -/
def returns (arithmetic : Arithmetic) (session : Session) : List Call → Bool
  | [] => true
  | call :: rest =>
    !session.panics arithmetic call && (session.step call).session.returns arithmetic rest

/-- Makes calls one after the other; the session at the end and all effects in their order. -/
def run (session : Session) : List Call → Session × List Effect
  | [] => (session, [])
  | call :: rest =>
    let outcome := session.step call
    let (final, later) := outcome.session.run rest
    (final, outcome.effects ++ later)

end Session

end TileMatch
