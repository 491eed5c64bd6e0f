import TileMatch.Event
import TileMatch.InFlight
import TileMatch.Turn

/-!
# Predicted placements

The local player first sees a placement as a preview, tinted by a local guess whether it is legal,
and then confirms it. A confirmed placement waits for the server, and until the server has answered
there is no other. The prediction never writes the board.

`Prediction.select` and `Prediction.confirm` give the one reason for which they refuse.
-/

namespace TileMatch

/-- A local judgement whether a shape may be placed at an anchor of a board. -/
abbrev LegalityRule := Shape → Position → Grid → Bool

namespace LegalityRule

/-- Accepts a shape whose footprint lies on the board over empty squares. -/
def occupancy : LegalityRule := fun shape anchor grid => (shape.footprint anchor).all grid.isFree

/-- Gives one answer to everything. -/
def constant (answer : Bool) : LegalityRule := fun _ _ _ => answer

end LegalityRule

/-- A selected placement that has not been confirmed, with the positions that it would cover and the
rule's verdict when it was selected. -/
structure Preview where
  shape : Shape
  anchor : Position
  cells : List Position
  locallyValid : Bool
  deriving DecidableEq, Repr

/-- The local player's placement. -/
inductive Prediction where
  | idle
  | previewing (preview : Preview)
  | confirmed (request : PlacementRequest) (key : RequestKey)
  deriving DecidableEq, Repr

namespace Prediction

/-- The active preview, if any. -/
def preview? : Prediction → Option Preview
  | previewing preview => some preview
  | _ => none

/-- The key of a confirmed placement, if any. -/
def confirmedKey? : Prediction → Option RequestKey
  | confirmed _ key => some key
  | _ => none

/-- Whether a confirmed placement waits for the server. -/
def isAwaiting (prediction : Prediction) : Bool := prediction.confirmedKey?.isSome

/-- Whether there is no placement. -/
def isIdle : Prediction → Bool
  | idle => true
  | _ => false

/-- The preview of a shape at an anchor. -/
def previewOf (legality : LegalityRule) (grid : Grid) (shape : Shape) (anchor : Position) :
    Preview :=
  ⟨shape, anchor, shape.footprint anchor, legality shape anchor grid⟩

/-- Selects a shape at an anchor in place of any other preview. Refused while a placement waits for
the server, and while the local turn is not open. -/
def select (prediction : Prediction) (turn : TurnClock) (legality : LegalityRule) (grid : Grid)
    (shape : Shape) (anchor : Position) (now : Instant) : Except PredictionError Preview :=
  if prediction.isAwaiting then .error .awaitingServer
  else if !turn.localTurnOpen now then .error .notLocalTurn
  else .ok (previewOf legality grid shape anchor)

/-- What an attempt to confirm comes to: the prediction and the ledger afterwards, and the request
or the refusal. -/
structure Confirmation where
  prediction : Prediction
  ledger : Ledger
  answer : Except PredictionError PlacementRequest

/-- Confirms the active preview and holds the key of its request. The turn is looked at again: when
it has run out since the selection, the preview is dropped. -/
def confirm (prediction : Prediction) (localSlot : Slot) (turn : TurnClock) (ledger : Ledger)
    (now : Instant) : Confirmation :=
  match prediction with
  | idle => ⟨prediction, ledger, .error .noActivePreview⟩
  | confirmed _ _ => ⟨prediction, ledger, .error .duplicateSubmission⟩
  | previewing preview =>
    if !turn.localTurnOpen now then ⟨idle, ledger, .error .staleTurnAttempt⟩
    else if !preview.locallyValid then ⟨prediction, ledger, .error .locallyInvalid⟩
    else
      let request := PlacementRequest.ofShape localSlot preview.shape preview.anchor
      let key := RequestKey.placement localSlot preview.anchor preview.shape.piece
      match ledger.begin? key now with
      | none => ⟨prediction, ledger, .error .duplicateSubmission⟩
      | some ledger => ⟨confirmed request key, ledger, .ok request⟩

/-- Whether an attempt to confirm panics, because the key would outlast the clock. -/
def confirmPanics (prediction : Prediction) (localSlot : Slot) (turn : TurnClock) (ledger : Ledger)
    (now : Instant) : Bool :=
  match prediction with
  | previewing preview =>
    turn.localTurnOpen now && preview.locallyValid &&
      ledger.panics (.placement localSlot preview.anchor preview.shape.piece) now
  | _ => false

/-- Discards the active preview. -/
def cancel : Prediction → Except PredictionError Prediction
  | previewing _ => .ok idle
  | idle => .error .noActivePreview
  | confirmed _ _ => .error .awaitingServer

/-- The prediction after the loss of the local turn: a preview is dropped, a confirmed placement
keeps waiting. -/
def afterTurnLost : Prediction → Prediction
  | previewing _ => idle
  | other => other

/-- The prediction after the server has moved on: a confirmed placement is given up, a preview
stays. -/
def afterTurnChange : Prediction → Prediction
  | confirmed _ _ => idle
  | other => other

end Prediction

end TileMatch
