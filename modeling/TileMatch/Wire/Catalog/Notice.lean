import TileMatch.Event
import TileMatch.Wire.Catalog.Board

/-!
# The wire forms of what the player is told

The forms of notices, of the tints of a preview, and of the reasons behind failures.
-/

namespace TileMatch

open Wire

namespace RejectionReason

/-- Reasons are written as their names. -/
def schema : Schema := .ofNames (all.map name)

/-- A reason as a value. -/
def toValue (reason : RejectionReason) : Value := .plain reason.name

/-- The reason of a value. -/
def ofValue? : Value → Option RejectionReason := Value.toNamed? all name

instance : Form RejectionReason := ⟨schema, toValue, ofValue?⟩

end RejectionReason

namespace DisconnectReason

/-- Reasons are written as their names. -/
def schema : Schema := .ofNames (all.map name)

/-- A reason as a value. -/
def toValue (reason : DisconnectReason) : Value := .plain reason.name

/-- The reason of a value. -/
def ofValue? : Value → Option DisconnectReason := Value.toNamed? all name

instance : Form DisconnectReason := ⟨schema, toValue, ofValue?⟩

end DisconnectReason

namespace PreviewValidity

/-- The name of a tint on the wire. -/
def name : PreviewValidity → String
  | valid => "Valid"
  | invalid => "Invalid"
  | cleared => "Cleared"

/-- Tints are written as their names. -/
def schema : Schema := .ofNames (all.map name)

/-- A tint as a value. -/
def toValue (validity : PreviewValidity) : Value := .plain validity.name

/-- The tint of a value. -/
def ofValue? : Value → Option PreviewValidity := Value.toNamed? all name

instance : Form PreviewValidity := ⟨schema, toValue, ofValue?⟩

end PreviewValidity

namespace Notice

/-- Notices are alternatives; a seat that they name may be left out. -/
def schema : Schema := .choice <|
  .plain "GameStarted" <|
  .tagged "PreviousTurnTimedOut" (.optional "previous" Slot.schema .nil) <|
  .tagged "GameEnded" (.optional "winner" Slot.schema .nil) .nil

/-- A notice as a value. -/
def toValue : Notice → Value
  | gameStarted => .plain "GameStarted"
  | previousTurnTimedOut previous =>
    .tagged "PreviousTurnTimedOut" [("previous", .ofOption Slot.toValue previous)]
  | gameEnded winner => .tagged "GameEnded" [("winner", .ofOption Slot.toValue winner)]

/-- The notice of a value. -/
def ofValue? : Value → Option Notice
  | .plain "GameStarted" => some gameStarted
  | .tagged "PreviousTurnTimedOut" [(_, previous)] =>
    (previous.toOption? Slot.ofValue?).map previousTurnTimedOut
  | .tagged "GameEnded" [(_, winner)] => (winner.toOption? Slot.ofValue?).map gameEnded
  | _ => none

instance : Form Notice := ⟨schema, toValue, ofValue?⟩

end Notice

end TileMatch
