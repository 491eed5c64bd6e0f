import TileMatch.Wire.Catalog.Event
import TileMatch.Wire.Catalog.Request

/-!
# Replay scripts

A `Script` is a recorded match as one player saw it: timed events of the server and inputs of the
player, in the order in which they happen.
-/

namespace TileMatch

open Wire

namespace Replay

/-- What happens in one step. -/
inductive Action where
  | server (event : ServerEvent)
  | input (input : LocalInput)
  deriving DecidableEq, Repr

/-- An action and when it happens, in milliseconds since the start. -/
structure Step where
  atMilliseconds : Nat
  action : Action
  deriving DecidableEq, Repr

/-- A recorded match. -/
structure Script where
  roomId : String
  /-- The seat of the local player in server numbering. -/
  localSlot : Int
  /-- For how long the clock goes on after the last step. -/
  runOutMilliseconds : Nat
  steps : List Step
  deriving DecidableEq, Repr

namespace Action

/-- Actions are alternatives that hold an event or an input. -/
def schema : Schema :=
  .choice (.wrapped "Server" ServerEvent.schema (.wrapped "Local" LocalInput.schema .nil))

/-- An action as a value. -/
def toValue : Action → Value
  | server event => .wrapped "Server" event.toValue
  | input given => .wrapped "Local" given.toValue

/-- The action of a value. -/
def ofValue? : Value → Option Action
  | .wrapped "Server" event => (ServerEvent.ofValue? event).map server
  | .wrapped "Local" event => (LocalInput.ofValue? event).map input
  | _ => none

instance : Form Action := ⟨schema, toValue, ofValue?⟩

end Action

namespace Step

/-- Steps are records. -/
def schema : Schema := .record "ScriptEntry"
  (.required "at_ms" (.ofWidth .unsigned64) (.required "step" Action.schema .nil))

/-- A step as a value. -/
def toValue (step : Step) : Value :=
  .record "ScriptEntry" [("at_ms", .ofNat step.atMilliseconds), ("step", step.action.toValue)]

/-- The step of a value. -/
def ofValue? : Value → Option Step
  | .record _ [(_, time), (_, action)] => do
    return ⟨← time.toNat?, ← Action.ofValue? action⟩
  | _ => none

instance : Form Step := ⟨schema, toValue, ofValue?⟩

end Step

namespace Script

/-- Scripts are records in which the time after the last step may be left out. -/
def schema : Schema := .record "Script"
  (.required "room_id" .text (.required "local_slot" (.ofWidth .signed64)
    (.defaulted "run_out_ms" (.ofWidth .unsigned64) (.integer 0)
      (.required "steps" (.list Step.schema) .nil))))

/-- A script as a value. -/
def toValue (script : Script) : Value :=
  .record "Script" [("room_id", .text script.roomId), ("local_slot", .integer script.localSlot),
    ("run_out_ms", .ofNat script.runOutMilliseconds),
    ("steps", .list (script.steps.map Step.toValue))]

/-- The script of a value. -/
def ofValue? : Value → Option Script
  | .record _ [(_, .text roomId), (_, .integer localSlot), (_, runOut), (_, steps)] => do
    return ⟨roomId, localSlot, ← runOut.toNat?, ← steps.toList? Step.ofValue?⟩
  | _ => none

instance : Form Script := ⟨schema, toValue, ofValue?⟩

/-- The script that a text holds. -/
def ofText? (text : String) : Option Script := Form.ofRonText? text

end Script

end Replay

end TileMatch
