import TileMatch.Board.Position

/-!
# Pieces and their shapes

Every player owns the same twenty-one pieces. A `Shape` is a piece in one of its orientations:
first mirrored, then turned clockwise, then moved so that its bounding box starts at the origin.
`Shape.cells` lists its offsets in lexicographic order, so two orientations that cover the same
squares have the same list, and `Shape.footprint` is that list seen from an anchor.
-/

namespace TileMatch

/-- The twenty-one pieces. -/
inductive Piece where
  | single
  | domino
  | trioLine
  | trioAngle
  | tetroI
  | tetroO
  | tetroT
  | tetroL
  | tetroS
  | pentoF
  | pentoI
  | pentoL
  | pentoN
  | pentoP
  | pentoT
  | pentoU
  | pentoV
  | pentoW
  | pentoX
  | pentoY
  | pentoZ
  deriving DecidableEq, Repr

namespace Piece

/-- Every piece in the order of its server number. -/
def all : List Piece :=
  [single, domino, trioLine, trioAngle, tetroI, tetroO, tetroT, tetroL, tetroS, pentoF, pentoI,
    pentoL, pentoN, pentoP, pentoT, pentoU, pentoV, pentoW, pentoX, pentoY, pentoZ]

/-- The pieces that every player starts with. -/
def countPerPlayer : Nat := 21

/-- The offsets of a piece as it is drawn, row before column. -/
def offsets : Piece → List (Int × Int)
  | single => [(0, 0)]
  | domino => [(0, 0), (0, 1)]
  | trioLine => [(0, 0), (0, 1), (0, 2)]
  | trioAngle => [(0, 0), (0, 1), (1, 1)]
  | tetroI => [(0, 0), (0, 1), (0, 2), (0, 3)]
  | tetroO => [(0, 0), (0, 1), (1, 0), (1, 1)]
  | tetroT => [(0, 0), (0, 1), (0, 2), (1, 1)]
  | tetroL => [(0, 0), (0, 1), (0, 2), (1, 0)]
  | tetroS => [(0, 0), (0, 1), (1, 1), (1, 2)]
  | pentoF => [(0, 1), (0, 2), (1, 0), (1, 1), (2, 1)]
  | pentoI => [(0, 0), (0, 1), (0, 2), (0, 3), (0, 4)]
  | pentoL => [(0, 0), (0, 1), (0, 2), (0, 3), (1, 0)]
  | pentoN => [(0, 0), (0, 1), (0, 2), (1, 2), (1, 3)]
  | pentoP => [(0, 0), (0, 1), (1, 0), (1, 1), (2, 0)]
  | pentoT => [(0, 0), (0, 1), (0, 2), (1, 1), (2, 1)]
  | pentoU => [(0, 0), (0, 2), (1, 0), (1, 1), (1, 2)]
  | pentoV => [(0, 0), (1, 0), (2, 0), (2, 1), (2, 2)]
  | pentoW => [(0, 0), (1, 0), (1, 1), (2, 1), (2, 2)]
  | pentoX => [(0, 1), (1, 0), (1, 1), (1, 2), (2, 1)]
  | pentoY => [(0, 0), (0, 1), (0, 2), (0, 3), (1, 1)]
  | pentoZ => [(0, 0), (0, 1), (1, 1), (2, 1), (2, 2)]

/-- The number of squares that a piece covers, which is also its score. -/
def size (piece : Piece) : Nat := piece.offsets.length

/-- The server number of a piece; numbers start at one. -/
def number (piece : Piece) : Nat := all.idxOf piece + 1

/-- The piece with a server number. -/
def ofNumber? (number : Nat) : Option Piece :=
  if number = 0 then none else all[number - 1]?

end Piece

/-- Clockwise turns. -/
inductive Rotation where
  | none
  | quarter
  | half
  | threeQuarters
  deriving DecidableEq, Repr

namespace Rotation

/-- Every turn, smallest first. -/
def all : List Rotation := [none, quarter, half, threeQuarters]

/-- One more quarter turn. -/
def clockwise : Rotation → Rotation
  | none => quarter
  | quarter => half
  | half => threeQuarters
  | threeQuarters => none

/-- An offset after the turn about the origin. -/
def apply : Rotation → Int × Int → Int × Int
  | none, (row, column) => (row, column)
  | quarter, (row, column) => (column, -row)
  | half, (row, column) => (-row, -column)
  | threeQuarters, (row, column) => (-column, row)

end Rotation

/-- Mirror states. -/
inductive Flip where
  | none
  | horizontal
  | vertical
  | both
  deriving DecidableEq, Repr

namespace Flip

/-- Every mirror state. -/
def all : List Flip := [none, horizontal, vertical, both]

/-- The state with the horizontal mirror toggled and the vertical one kept. -/
def toggleHorizontal : Flip → Flip
  | none => horizontal
  | horizontal => none
  | vertical => both
  | both => vertical

/-- Whether any mirror is applied. -/
def isFlipped (flip : Flip) : Bool := flip != none

/-- An offset after the mirrors about the origin. -/
def apply : Flip → Int × Int → Int × Int
  | none, (row, column) => (row, column)
  | horizontal, (row, column) => (row, -column)
  | vertical, (row, column) => (-row, column)
  | both, (row, column) => (-row, -column)

end Flip

/-- A piece together with its orientation. -/
structure Shape where
  piece : Piece
  rotation : Rotation
  flip : Flip
  deriving DecidableEq, Repr

namespace Shape

/-- Row-major comparison of offsets. -/
def offsetLE (first second : Int × Int) : Bool :=
  first.1 < second.1 || (first.1 == second.1 && first.2 ≤ second.2)

/-- The least number of a list, zero for the empty list. -/
def least : List Int → Int
  | [] => 0
  | first :: rest => rest.foldl min first

/-- The offsets after mirroring and turning. -/
def turned (shape : Shape) : List (Int × Int) :=
  shape.piece.offsets.map fun offset => shape.rotation.apply (shape.flip.apply offset)

/-- The offsets of the shape in row-major order, with least row and least column zero. -/
def cells (shape : Shape) : List (Int × Int) :=
  let turned := shape.turned
  let top := least (turned.map Prod.fst)
  let left := least (turned.map Prod.snd)
  (turned.map fun offset => (offset.1 - top, offset.2 - left)).mergeSort offsetLE

/-- The positions that the shape covers when the corner of its bounding box is at an anchor. -/
def footprint (shape : Shape) (anchor : Position) : List Position :=
  shape.cells.map anchor.shift

/-- Whether a coordinate of the footprint has to be reduced. -/
def outgrows (shape : Shape) (anchor : Position) : Bool := shape.cells.any anchor.outgrows

end Shape

end TileMatch
