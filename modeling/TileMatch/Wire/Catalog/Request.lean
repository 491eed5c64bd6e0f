import TileMatch.Event
import TileMatch.InFlight
import TileMatch.Wire.Catalog.Board

/-!
# The wire forms of inputs and requests

The forms of what the player does, of the requests that this leads to, and of their keys.
-/

namespace TileMatch

open Wire

namespace LocalInput

/-- Inputs are alternatives; a selection may leave out its orientation. -/
def schema : Schema := .choice <|
  .tagged "Select"
    (.required "block" Piece.schema
      (.defaulted "rotation" Rotation.schema Rotation.none.toValue
        (.defaulted "flip" Flip.schema Flip.none.toValue
          (.required "anchor" Position.schema .nil)))) <|
  .plain "Confirm" <|
  .plain "Cancel" .nil

/-- An input as a value. -/
def toValue : LocalInput → Value
  | select piece rotation flip anchor =>
    .tagged "Select" [("block", piece.toValue), ("rotation", rotation.toValue),
      ("flip", flip.toValue), ("anchor", anchor.toValue)]
  | confirm => .plain "Confirm"
  | cancel => .plain "Cancel"

/-- The input of a value. -/
def ofValue? : Value → Option LocalInput
  | .plain "Confirm" => some confirm
  | .plain "Cancel" => some cancel
  | .tagged _ [(_, piece), (_, rotation), (_, flip), (_, anchor)] => do
    return select (← Piece.ofValue? piece) (← Rotation.ofValue? rotation) (← Flip.ofValue? flip)
      (← Position.ofValue? anchor)
  | _ => none

instance : Form LocalInput := ⟨schema, toValue, ofValue?⟩

end LocalInput

namespace PlacementRequest

/-- Placements are records. -/
def schema : Schema := .record "PlacementRequest"
  (.required "slot" Slot.schema (.required "block_type" Piece.schema
    (.required "anchor" Position.schema (.required "rotation" Rotation.schema
      (.required "flip" Flip.schema .nil)))))

/-- A placement as a value. -/
def toValue (request : PlacementRequest) : Value :=
  .record "PlacementRequest" [("slot", request.slot.toValue), ("block_type", request.piece.toValue),
    ("anchor", request.anchor.toValue), ("rotation", request.rotation.toValue),
    ("flip", request.flip.toValue)]

/-- The placement of a value. -/
def ofValue? : Value → Option PlacementRequest
  | .record _ [(_, slot), (_, piece), (_, anchor), (_, rotation), (_, flip)] => do
    return ⟨← Slot.ofValue? slot, ← Piece.ofValue? piece, ← Position.ofValue? anchor,
      ← Rotation.ofValue? rotation, ← Flip.ofValue? flip⟩
  | _ => none

instance : Form PlacementRequest := ⟨schema, toValue, ofValue?⟩

end PlacementRequest

namespace OutboundRequest

/-- Requests are alternatives, one of which holds a placement. -/
def schema : Schema :=
  .choice (.wrapped "Placement" PlacementRequest.schema (.plain "Pass" (.plain "Resync" .nil)))

/-- A request as a value. -/
def toValue : OutboundRequest → Value
  | placement request => .wrapped "Placement" request.toValue
  | pass => .plain "Pass"
  | resync => .plain "Resync"

/-- The request of a value. -/
def ofValue? : Value → Option OutboundRequest
  | .wrapped _ request => (PlacementRequest.ofValue? request).map placement
  | .plain "Pass" => some pass
  | .plain "Resync" => some resync
  | _ => none

instance : Form OutboundRequest := ⟨schema, toValue, ofValue?⟩

end OutboundRequest

namespace Operation

/-- The name of a kind of request on the wire. -/
def name : Operation → String
  | placement => "Placement"
  | pass => "Pass"
  | resync => "Resync"

/-- Kinds of requests are written as their names. -/
def schema : Schema := .ofNames (all.map name)

/-- A kind of request as a value. -/
def toValue (operation : Operation) : Value := .plain operation.name

/-- The kind of request of a value. -/
def ofValue? : Value → Option Operation := Value.toNamed? all name

instance : Form Operation := ⟨schema, toValue, ofValue?⟩

end Operation

namespace RequestKey

/-- Keys are records in which anchor and piece may be left out. -/
def schema : Schema := .record "InFlightKey"
  (.required "operation" Operation.schema (.required "slot" Slot.schema
    (.optional "anchor" Position.schema (.optional "block" Piece.schema .nil))))

/-- A key as a value. -/
def toValue (key : RequestKey) : Value :=
  .record "InFlightKey" [("operation", key.operation.toValue), ("slot", key.slot.toValue),
    ("anchor", .ofOption Position.toValue key.anchor), ("block", .ofOption Piece.toValue key.piece)]

/-- The key of a value. -/
def ofValue? : Value → Option RequestKey
  | .record _ [(_, operation), (_, slot), (_, anchor), (_, piece)] => do
    return ⟨← Operation.ofValue? operation, ← Slot.ofValue? slot,
      ← Value.toOption? Position.ofValue? anchor, ← Value.toOption? Piece.ofValue? piece⟩
  | _ => none

instance : Form RequestKey := ⟨schema, toValue, ofValue?⟩

end RequestKey

end TileMatch
