import TileMatch.Board.Grid
import TileMatch.Binary32
import TileMatch.Failure
import TileMatch.Piece

/-!
# Events, inputs, requests and notices

What reaches a session and what leaves it. Events of the server carry seats in server numbering and
raw cell codes; everything that leaves the session speaks of seats that exist.
-/

namespace TileMatch

/-- A seated player as the server lists it. -/
structure SeatEntry where
  slot : Int
  userId : String
  displayName : String
  ready : Bool
  isHost : Bool
  deriving DecidableEq, Repr

/-- An event of the server. -/
inductive ServerEvent where
  /-- The full list of seated players on entering a room. -/
  | roomJoined (roomId : String) (players : List SeatEntry)
  | playerJoined (slot : Int) (userId displayName : String)
  | playerLeft (slot : Int)
  | playerReady (slot : Int) (ready : Bool)
  | hostChanged (slot : Int)
  | gameStarted
  /-- Whose turn it now is, how long a turn lasts if the server says so, and what is left of it. -/
  | turnChanged (slot : Int) (turnTime : Option Binary32) (remaining : Binary32)
      (previousTimedOut : Bool) (turnNumber : Nat)
  /-- The whole board as rows of cell codes. -/
  | boardSnapshot (grid : List (List Int))
  /-- The squares of one accepted placement. -/
  | cellsPlaced (slot : Int) (piece : Option Piece) (cells : List Position)
      (scoreGained : Option Nat)
  | placementRejected (code : String)
  /-- Total scores by seat. -/
  | scoresUpdated (scores : List (Int × Nat))
  /-- The winner's seat; none or zero for a draw. -/
  | gameEnded (winner : Option Int)
  | disconnected (code : String)
  | roomLeft
  deriving DecidableEq, Repr

/-- An input of the local player. -/
inductive LocalInput where
  | select (piece : Piece) (rotation : Rotation) (flip : Flip) (anchor : Position)
  | confirm
  | cancel
  deriving DecidableEq, Repr

/-- A confirmed placement. -/
structure PlacementRequest where
  slot : Slot
  piece : Piece
  anchor : Position
  rotation : Rotation
  flip : Flip
  deriving DecidableEq, Repr

namespace PlacementRequest

/-- The request for a shape at an anchor. -/
def ofShape (slot : Slot) (shape : Shape) (anchor : Position) : PlacementRequest :=
  ⟨slot, shape.piece, anchor, shape.rotation, shape.flip⟩

/-- The shape that is to be placed. -/
def shape (request : PlacementRequest) : Shape := ⟨request.piece, request.rotation, request.flip⟩

@[simp]
theorem shape_ofShape (slot : Slot) (shape : Shape) (anchor : Position) :
    (ofShape slot shape anchor).shape = shape := rfl

end PlacementRequest

/-- A request to the server. -/
inductive OutboundRequest where
  | placement (request : PlacementRequest)
  | pass
  | resync
  deriving DecidableEq, Repr

/-- How a preview is tinted. -/
inductive PreviewValidity where
  | valid
  | invalid
  | cleared
  deriving DecidableEq, Repr

namespace PreviewValidity

/-- Every tint. -/
def all : List PreviewValidity := [valid, invalid, cleared]

end PreviewValidity

/-- An item of information for the player. -/
inductive Notice where
  | gameStarted
  | previousTurnTimedOut (previous : Option Slot)
  | gameEnded (winner : Option Slot)
  deriving DecidableEq, Repr

/-- What observers are told. -/
inductive UiEvent where
  | cell (position : Position) (owner : CellOwner)
  | preview (cells : List Position) (validity : PreviewValidity)
  | turnDisplay (slot : Option Slot) (remainingSeconds : Nat)
  | error (error : SyncError)
  | notice (notice : Notice)
  deriving DecidableEq, Repr

namespace UiEvent

/-- There is no preview any more. -/
def previewCleared : UiEvent := preview [] .cleared

end UiEvent

end TileMatch
