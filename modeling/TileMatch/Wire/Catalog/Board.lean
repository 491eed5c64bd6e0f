import TileMatch.Board.Reconciler
import TileMatch.Piece
import TileMatch.Wire.Form

/-!
# The wire forms of squares and pieces

For every type that crosses the wire there is its schema, the value of each of its elements, and the
element of a value. A value of the schema always is the value of an element, and reading back what
was written gives the same element. Here are the forms of seats, of squares and of pieces.
-/

namespace TileMatch

open Wire

namespace Slot

/-- Seats are written as their client index. -/
def schema : Schema := .integer .unsigned8 3

/-- A seat as a value. -/
def toValue (slot : Slot) : Value := .integer slot.index.val

/-- The seat of a value. -/
def ofValue? : Value → Option Slot
  | .integer value => if 0 ≤ value then (Slot.ofIndex value.toNat).toOption else none
  | _ => none

instance : Form Slot := ⟨schema, toValue, ofValue?⟩

end Slot

namespace Color

/-- Colours are written as their names. -/
def schema : Schema := .ofNames (all.map name)

/-- A colour as a value. -/
def toValue (color : Color) : Value := .plain color.name

/-- The colour of a value. -/
def ofValue? : Value → Option Color := Value.toNamed? all name

instance : Form Color := ⟨schema, toValue, ofValue?⟩

end Color

namespace Position

/-- Positions are records of row and column. -/
def schema : Schema := .record "Position"
  (.required "row" (.ofWidth .signed32) (.required "col" (.ofWidth .signed32) .nil))

/-- A position as a value. -/
def toValue (position : Position) : Value :=
  .record "Position" [("row", .integer position.row), ("col", .integer position.column)]

/-- The position of a value. -/
def ofValue? : Value → Option Position
  | .record _ [(_, .integer row), (_, .integer column)] => some ⟨row, column⟩
  | _ => none

instance : Form Position := ⟨schema, toValue, ofValue?⟩

end Position

namespace CellOwner

/-- Owners are alternatives, one of which holds a seat. -/
def schema : Schema :=
  .choice (.plain "Empty" (.wrapped "Slot" Slot.schema (.plain "Obstacle" .nil)))

/-- An owner as a value. -/
def toValue : CellOwner → Value
  | empty => .plain "Empty"
  | owned slot => .wrapped "Slot" slot.toValue
  | obstacle => .plain "Obstacle"

/-- The owner of a value. -/
def ofValue? : Value → Option CellOwner
  | .plain "Empty" => some empty
  | .plain "Obstacle" => some obstacle
  | .wrapped _ slot => (Slot.ofValue? slot).map owned
  | _ => none

instance : Form CellOwner := ⟨schema, toValue, ofValue?⟩

end CellOwner

namespace CellChange

/-- Changes are records of position and owner. -/
def schema : Schema := .record "CellChange"
  (.required "position" Position.schema (.required "owner" CellOwner.schema .nil))

/-- A change as a value. -/
def toValue (change : CellChange) : Value :=
  .record "CellChange" [("position", change.position.toValue), ("owner", change.owner.toValue)]

/-- The change of a value. -/
def ofValue? : Value → Option CellChange
  | .record _ [(_, position), (_, owner)] => do
    return ⟨← Position.ofValue? position, ← CellOwner.ofValue? owner⟩
  | _ => none

instance : Form CellChange := ⟨schema, toValue, ofValue?⟩

end CellChange

namespace Piece

/-- The name of a piece on the wire. -/
def name : Piece → String
  | single => "Single"
  | domino => "Domino"
  | trioLine => "TrioLine"
  | trioAngle => "TrioAngle"
  | tetroI => "TetroI"
  | tetroO => "TetroO"
  | tetroT => "TetroT"
  | tetroL => "TetroL"
  | tetroS => "TetroS"
  | pentoF => "PentoF"
  | pentoI => "PentoI"
  | pentoL => "PentoL"
  | pentoN => "PentoN"
  | pentoP => "PentoP"
  | pentoT => "PentoT"
  | pentoU => "PentoU"
  | pentoV => "PentoV"
  | pentoW => "PentoW"
  | pentoX => "PentoX"
  | pentoY => "PentoY"
  | pentoZ => "PentoZ"

/-- Pieces are written as their names. -/
def schema : Schema := .ofNames (all.map name)

/-- A piece as a value. -/
def toValue (piece : Piece) : Value := .plain piece.name

/-- The piece of a value. -/
def ofValue? : Value → Option Piece := Value.toNamed? all name

instance : Form Piece := ⟨schema, toValue, ofValue?⟩

end Piece

namespace Rotation

/-- The name of a turn on the wire. -/
def name : Rotation → String
  | none => "Deg0"
  | quarter => "Deg90"
  | half => "Deg180"
  | threeQuarters => "Deg270"

/-- Turns are written as their names. -/
def schema : Schema := .ofNames (all.map name)

/-- A turn as a value. -/
def toValue (rotation : Rotation) : Value := .plain rotation.name

/-- The turn of a value. -/
def ofValue? : Value → Option Rotation := Value.toNamed? all name

instance : Form Rotation := ⟨schema, toValue, ofValue?⟩

end Rotation

namespace Flip

/-- The name of a mirror state on the wire. -/
def name : Flip → String
  | none => "Normal"
  | horizontal => "Horizontal"
  | vertical => "Vertical"
  | both => "Both"

/-- Mirror states are written as their names. -/
def schema : Schema := .ofNames (all.map name)

/-- A mirror state as a value. -/
def toValue (flip : Flip) : Value := .plain flip.name

/-- The mirror state of a value. -/
def ofValue? : Value → Option Flip := Value.toNamed? all name

instance : Form Flip := ⟨schema, toValue, ofValue?⟩

end Flip

namespace Shape

/-- Shapes are records in which the orientation may be left out. -/
def schema : Schema := .record "BlockShape"
  (.required "block_type" Piece.schema
    (.defaulted "rotation" Rotation.schema Rotation.none.toValue
      (.defaulted "flip" Flip.schema Flip.none.toValue .nil)))

/-- A shape as a value. -/
def toValue (shape : Shape) : Value :=
  .record "BlockShape" [("block_type", shape.piece.toValue), ("rotation", shape.rotation.toValue),
    ("flip", shape.flip.toValue)]

/-- The shape of a value. -/
def ofValue? : Value → Option Shape
  | .record _ [(_, piece), (_, rotation), (_, flip)] => do
    return ⟨← Piece.ofValue? piece, ← Rotation.ofValue? rotation, ← Flip.ofValue? flip⟩
  | _ => none

instance : Form Shape := ⟨schema, toValue, ofValue?⟩

end Shape

end TileMatch
