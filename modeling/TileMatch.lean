import TileMatch.Main
import TileMatch.Session.Audience
import TileMatch.Wire.Catalog.Notice
import TileMatch.Proofs.Ledger
import TileMatch.Proofs.Session.Step
import TileMatch.Proofs.Session.History
import TileMatch.Proofs.Session.Returning
import TileMatch.Proofs.Session.Submission
import TileMatch.Proofs.Session.AutomaticPass
import TileMatch.Proofs.Board.Overwriting
import TileMatch.Proofs.Session.Agreement
import TileMatch.Proofs.Session.KeysInFlight
import TileMatch.Proofs.Room
import TileMatch.Proofs.Session.Host
import TileMatch.Proofs.Session.Running
import TileMatch.Proofs.Board.Decoding
import TileMatch.Proofs.Session.Refusal
import TileMatch.Proofs.Board.Picture
import TileMatch.Proofs.Session.Telling
import TileMatch.Proofs.Session.Audience
import TileMatch.Proofs.Session.Picture
import TileMatch.Proofs.Session.PreviewShown
import TileMatch.Proofs.Session.TurnShown
import TileMatch.Proofs.Board.Repeating
import TileMatch.Proofs.Room.Repeating
import TileMatch.Proofs.Session.Redelivery
import TileMatch.Proofs.Session.Closing
import TileMatch.Proofs.Session.SnapshotRequests
import TileMatch.Proofs.Session.PlacementInTurn
import TileMatch.Proofs.Session.GameOver
import TileMatch.Proofs.Session.Roster
import TileMatch.Proofs.Session.Standing
import TileMatch.Proofs.Room.Succession
import TileMatch.Proofs.Rounding
import TileMatch.Proofs.Binary32
import TileMatch.Proofs.Turn.Timing
import TileMatch.Proofs.Session.TurnTiming
import TileMatch.Proofs.Binary32.Decimal
import TileMatch.Proofs.Wire.Schema
import TileMatch.Proofs.Wire.Lawful
import TileMatch.Proofs.Wire.Json.Spelling
import TileMatch.Proofs.Wire.Json.Refusal
import TileMatch.Proofs.Wire.Catalog.Board
import TileMatch.Proofs.Wire.Catalog.Event
import TileMatch.Proofs.Wire.Catalog.Request
import TileMatch.Proofs.Wire.Reading
import TileMatch.Proofs.Settings
import TileMatch.Proofs.Replay.Clock
import TileMatch.Proofs.Replay.Ending
import TileMatch.Proofs.Replay.Schedule
import TileMatch.Proofs.Replay.RunOut
import TileMatch.Proofs.Ledger.History
import TileMatch.Proofs.Session.LostAnswer
import TileMatch.Proofs.Turn.Ticking
import TileMatch.Proofs.Board.Encoding
import TileMatch.Proofs.Board.Placement
import TileMatch.Proofs.Session.InputRefusal
import TileMatch.Proofs.Session.PlacementBroadcast
import TileMatch.Proofs.Piece
import TileMatch.Proofs.Session.PredictionFulfilled
import TileMatch.Proofs.Session.FanOut
import TileMatch.Proofs.Settings.Reading
import TileMatch.Proofs.Settings.File
