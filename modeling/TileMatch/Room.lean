import TileMatch.Piece
import TileMatch.Slot

/-!
# The room and its roster

A `Room` holds the seated players with their scores and remaining pieces, and whether a game runs.
Before a game starts, a room with players has a host: the first player becomes host, and when the
host leaves, the player in the lowest seat follows.
-/

namespace TileMatch

/-- A seated player. -/
structure Player where
  userId : String
  displayName : String
  ready : Bool
  isHost : Bool
  score : UInt32
  remainingPieces : Nat
  deriving DecidableEq, Repr

namespace Player

/-- A player who has just sat down. -/
def newcomer (userId displayName : String) (isHost : Bool) : Player :=
  ⟨userId, displayName, false, isHost, 0, Piece.countPerPlayer⟩

/-- The player at the start of a game. -/
def refreshed (player : Player) : Player :=
  { player with score := 0, remainingPieces := Piece.countPerPlayer }

end Player

/-- The seats of a room and whether a game runs in it. -/
structure Room where
  roomId : String
  seats : Vector (Option Player) 4
  started : Bool
  deriving DecidableEq

namespace Room

/-- A room without players. -/
def empty (roomId : String) : Room := ⟨roomId, Vector.replicate 4 none, false⟩

/-- The player in a seat, if any. -/
def player? (room : Room) (slot : Slot) : Option Player := room.seats[slot.index]

/-- The room with other players in its seats, seat by seat. -/
def mapSeats (room : Room) (change : Slot → Option Player → Option Player) : Room :=
  { room with seats := Vector.ofFn fun index => change ⟨index⟩ room.seats[index] }

/-- The room with another occupant of one seat. -/
def setSeat (room : Room) (slot : Slot) (player : Option Player) : Room :=
  { room with seats := room.seats.set slot.index player }

/-- The room with a change to the player in one seat, if there is one. -/
def modify (room : Room) (slot : Slot) (change : Player → Player) : Room :=
  room.setSeat slot ((room.player? slot).map change)

@[simp]
theorem player?_mapSeats (room : Room) (change : Slot → Option Player → Option Player)
    (slot : Slot) : (room.mapSeats change).player? slot = change slot (room.player? slot) := by
  simp [mapSeats, player?]

theorem player?_setSeat (room : Room) (written read : Slot) (player : Option Player) :
    (room.setSeat written player).player? read =
      if read = written then player else room.player? read := by
  rcases written with ⟨index⟩
  rcases read with ⟨readIndex⟩
  simp only [setSeat, player?, Slot.mk.injEq]
  by_cases same : readIndex = index
  · subst same
    simp
  · have apart : index.val ≠ readIndex.val := fun equal => same (Fin.ext equal.symm)
    simp [same, apart]

/-- The seated players in the order of their seats. -/
def players (room : Room) : List (Slot × Player) :=
  Slot.all.filterMap fun slot => (room.player? slot).map (slot, ·)

/-- The number of seated players. -/
def count (room : Room) : Nat := room.players.length

/-- The first seat whose player is host, if any. -/
def host? (room : Room) : Option Slot :=
  (room.players.find? fun entry => entry.2.isHost).map Prod.fst

/-- Seats a player in place of whoever held the seat. When nobody else is host, the newcomer becomes
host if the one replaced was, or if no game runs. -/
def seat (room : Room) (slot : Slot) (userId displayName : String) : Room :=
  let hadHost := (room.player? slot).any Player.isHost
  let vacated := room.setSeat slot none
  let isHost := vacated.host?.isNone && (hadHost || !room.started)
  vacated.setSeat slot (some (.newcomer userId displayName isHost))

/-- Frees a seat. When the host leaves, the player in the lowest seat becomes host. -/
def remove (room : Room) (slot : Slot) : Room :=
  let vacated := room.setSeat slot none
  if (room.player? slot).any Player.isHost then
    match vacated.players.head? with
    | some (next, _) => vacated.modify next ({ · with isHost := true })
    | none => vacated
  else vacated

/-- Sets whether the player in a seat is ready. -/
def setReady (room : Room) (slot : Slot) (ready : Bool) : Room :=
  room.modify slot ({ · with ready := ready })

/-- Makes the player in a seat the only host; nothing happens when the seat is empty. -/
def setHost (room : Room) (slot : Slot) : Room :=
  if (room.player? slot).isSome then
    room.mapSeats fun other player => player.map ({ · with isHost := decide (other = slot) })
  else room

/-- Takes over the total score of a seat. -/
def setScore (room : Room) (slot : Slot) (score : Nat) : Room :=
  room.modify slot ({ · with score := .ofNat score })

/-- Takes over total scores, one after the other. -/
def applyScores (room : Room) (scores : List (Slot × Nat)) : Room :=
  scores.foldl (fun room entry => room.setScore entry.1 entry.2) room

/-- Records an accepted placement: one piece fewer and more points. -/
def recordPlacement (room : Room) (slot : Slot) (gained : Nat) : Room :=
  room.modify slot fun player =>
    { player with
      remainingPieces := player.remainingPieces - 1
      score := player.score + .ofNat gained }

/-- Whether the score of the player in a seat, with more points, has to be reduced to its thirty-two
bits. -/
def outgrows (room : Room) (slot : Slot) (gained : Nat) : Bool :=
  (room.player? slot).any fun player =>
    UInt32.size ≤ player.score.toNat + (UInt32.ofNat gained).toNat

/-- Gives every player fresh scores and pieces; no game runs afterwards. -/
def prepareGame (room : Room) : Room :=
  { room.mapSeats fun _ player => player.map Player.refreshed with started := false }

/-- Starts a game with fresh scores and pieces. -/
def startGame (room : Room) : Room := { room.prepareGame with started := true }

/-- Ends a game; everyone has to become ready again. -/
def endGame (room : Room) : Room :=
  { room.mapSeats fun _ player => player.map ({ · with ready := false }) with started := false }

end Room

end TileMatch
