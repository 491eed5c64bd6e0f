import TileMatch.Event
import TileMatch.Room
import TileMatch.Wire.Catalog.Board

/-!
# The wire forms of the events of the server

The forms of players, of the entries by which the server lists them, and of all events.
-/

namespace TileMatch

open Wire

namespace SeatEntry

/-- Entries are records in which both flags may be left out. -/
def schema : Schema := .record "SeatInfo"
  (.required "slot" (.ofWidth .signed64) (.required "user_id" .text (.required "display_name" .text
    (.defaulted "ready" .bool (.bool false) (.defaulted "is_host" .bool (.bool false) .nil)))))

/-- An entry as a value. -/
def toValue (entry : SeatEntry) : Value :=
  .record "SeatInfo" [("slot", .integer entry.slot), ("user_id", .text entry.userId),
    ("display_name", .text entry.displayName), ("ready", .bool entry.ready),
    ("is_host", .bool entry.isHost)]

/-- The entry of a value. -/
def ofValue? : Value → Option SeatEntry
  | .record _ [(_, .integer slot), (_, .text userId), (_, .text displayName), (_, .bool ready),
      (_, .bool isHost)] => some ⟨slot, userId, displayName, ready, isHost⟩
  | _ => none

instance : Form SeatEntry := ⟨schema, toValue, ofValue?⟩

end SeatEntry

namespace Player

/-- Players are records. -/
def schema : Schema := .record "PlayerInfo"
  (.required "user_id" .text (.required "display_name" .text (.required "ready" .bool
    (.required "is_host" .bool (.required "score" (.ofWidth .unsigned32)
      (.required "remaining_blocks" (.ofWidth .unsigned32) .nil))))))

/-- A player as a value. -/
def toValue (player : Player) : Value :=
  .record "PlayerInfo" [("user_id", .text player.userId),
    ("display_name", .text player.displayName),
    ("ready", .bool player.ready), ("is_host", .bool player.isHost),
    ("score", .ofNat player.score.toNat), ("remaining_blocks", .ofNat player.remainingPieces)]

/-- The player of a value. -/
def ofValue? : Value → Option Player
  | .record _ [(_, .text userId), (_, .text displayName), (_, .bool ready), (_, .bool isHost),
      (_, score), (_, remaining)] => do
    return ⟨userId, displayName, ready, isHost, .ofNat (← score.toNat?), ← remaining.toNat?⟩
  | _ => none

instance : Form Player := ⟨schema, toValue, ofValue?⟩

end Player

namespace ServerEvent

/-- A pair of seat number and score as a value. -/
def scoreToValue (score : Int × Nat) : Value := .pair (.integer score.1) (.ofNat score.2)

/-- The pair of seat number and score of a value. -/
def scoreOfValue? : Value → Option (Int × Nat)
  | .pair (.integer slot) score => score.toNat?.map (slot, ·)
  | _ => none

/-- Events are alternatives with named fields. -/
def schema : Schema :=
  let seat := Schema.ofWidth .signed64
  let count := Schema.ofWidth .unsigned32
  let onlySeat : Fields := .required "slot" seat .nil
  let onlyCode : Fields := .required "code" .text .nil
  .choice <|
    .tagged "RoomJoined"
      (.required "room_id" .text (.required "players" (.list SeatEntry.schema) .nil)) <|
    .tagged "PlayerJoined"
      (.required "slot" seat (.required "user_id" .text (.required "display_name" .text .nil))) <|
    .tagged "PlayerLeft" onlySeat <|
    .tagged "PlayerReady" (.required "slot" seat (.required "ready" .bool .nil)) <|
    .tagged "HostChanged" onlySeat <|
    .plain "GameStarted" <|
    .tagged "TurnChanged"
      (.required "slot" seat
        (.defaulted "turn_time_seconds" (.optional .single) .absent
          (.required "remaining_seconds" .single
            (.defaulted "previous_turn_timed_out" .bool (.bool false)
              (.defaulted "turn_number" count (.integer 0) .nil))))) <|
    .tagged "BoardSnapshot" (.required "grid" (.list (.list (.ofWidth .signed32))) .nil) <|
    .tagged "CellsPlaced"
      (.required "slot" seat
        (.defaulted "block" (.optional Piece.schema) .absent
          (.required "cells" (.list Position.schema)
            (.defaulted "score_gained" (.optional count) .absent .nil)))) <|
    .tagged "PlacementRejected" onlyCode <|
    .tagged "ScoresUpdated" (.required "scores" (.list (.pair seat count)) .nil) <|
    .tagged "GameEnded" (.defaulted "winner" (.optional seat) .absent .nil) <|
    .tagged "Disconnected" onlyCode <|
    .plain "RoomLeft" .nil

/-- An event as a value. -/
def toValue : ServerEvent → Value
  | roomJoined roomId players =>
    .tagged "RoomJoined" [("room_id", .text roomId),
      ("players", .list (players.map SeatEntry.toValue))]
  | playerJoined slot userId displayName =>
    .tagged "PlayerJoined" [("slot", .integer slot), ("user_id", .text userId),
      ("display_name", .text displayName)]
  | playerLeft slot => .tagged "PlayerLeft" [("slot", .integer slot)]
  | playerReady slot ready =>
    .tagged "PlayerReady" [("slot", .integer slot), ("ready", .bool ready)]
  | hostChanged slot => .tagged "HostChanged" [("slot", .integer slot)]
  | gameStarted => .plain "GameStarted"
  | turnChanged slot turnTime remaining previousTimedOut turnNumber =>
    .tagged "TurnChanged" [("slot", .integer slot),
      ("turn_time_seconds", .ofOption .single turnTime), ("remaining_seconds", .single remaining),
      ("previous_turn_timed_out", .bool previousTimedOut), ("turn_number", .ofNat turnNumber)]
  | boardSnapshot grid =>
    .tagged "BoardSnapshot" [("grid", .list (grid.map fun row => .list (row.map .integer)))]
  | cellsPlaced slot piece cells scoreGained =>
    .tagged "CellsPlaced" [("slot", .integer slot), ("block", .ofOption Piece.toValue piece),
      ("cells", .list (cells.map Position.toValue)), ("score_gained", .ofOption .ofNat scoreGained)]
  | placementRejected code => .tagged "PlacementRejected" [("code", .text code)]
  | scoresUpdated scores => .tagged "ScoresUpdated" [("scores", .list (scores.map scoreToValue))]
  | gameEnded winner => .tagged "GameEnded" [("winner", .ofOption .integer winner)]
  | disconnected code => .tagged "Disconnected" [("code", .text code)]
  | roomLeft => .plain "RoomLeft"

/-- The event of a name and its fields. -/
def ofFields? : String → List Value → Option ServerEvent
  | "RoomJoined", [.text roomId, players] =>
    (players.toList? SeatEntry.ofValue?).map (roomJoined roomId)
  | "PlayerJoined", [.integer slot, .text userId, .text displayName] =>
    some (playerJoined slot userId displayName)
  | "PlayerLeft", [.integer slot] => some (playerLeft slot)
  | "PlayerReady", [.integer slot, .bool ready] => some (playerReady slot ready)
  | "HostChanged", [.integer slot] => some (hostChanged slot)
  | "TurnChanged", [.integer slot, turnTime, .single remaining, .bool previousTimedOut,
      number] => do
    return turnChanged slot (← turnTime.toOption? Value.toSingle?) remaining previousTimedOut
      (← number.toNat?)
  | "BoardSnapshot", [grid] => (grid.toList? fun row => row.toList? Value.toInt?).map boardSnapshot
  | "CellsPlaced", [.integer slot, piece, cells, scoreGained] => do
    return cellsPlaced slot (← piece.toOption? Piece.ofValue?) (← cells.toList? Position.ofValue?)
      (← scoreGained.toOption? Value.toNat?)
  | "PlacementRejected", [.text code] => some (placementRejected code)
  | "ScoresUpdated", [scores] => (scores.toList? scoreOfValue?).map scoresUpdated
  | "GameEnded", [winner] => (winner.toOption? Value.toInt?).map gameEnded
  | "Disconnected", [.text code] => some (disconnected code)
  | _, _ => none

/-- The event of a value. -/
def ofValue? : Value → Option ServerEvent
  | .plain "GameStarted" => some gameStarted
  | .plain "RoomLeft" => some roomLeft
  | .tagged name fields => ofFields? name (fields.map Prod.snd)
  | _ => none

instance : Form ServerEvent := ⟨schema, toValue, ofValue?⟩

end ServerEvent

end TileMatch
