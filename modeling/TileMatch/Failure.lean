import TileMatch.Board.Snapshot
import TileMatch.Duration
import TileMatch.Text.Blank

/-!
# Failures and refusals

A `SyncError` is a failure of synchronization. Only a placement refused by the server and a lost
connection are shown to the player; all others are mended without a word. A `PredictionError` is
the refusal of a local input.
-/

namespace TileMatch

/-- A raw server code as it is compared: without blanks at its ends and with Latin letters in upper
case. -/
def comparableCode (code : String) : String :=
  String.ofList ((Text.trim code.toList).map Char.toUpper)

/-- Whether a list of characters occurs in another one without gaps. -/
def occursIn (wanted : List Char) : List Char → Bool
  | [] => wanted.isEmpty
  | c :: rest => wanted.isPrefixOf (c :: rest) || occursIn wanted rest

/-- Why the server refused a placement. -/
inductive RejectionReason where
  | occupied
  | invalidGeometry
  | notYourTurn
  deriving DecidableEq, Repr

namespace RejectionReason

/-- Every reason. -/
def all : List RejectionReason := [occupied, invalidGeometry, notYourTurn]

/-- The reason that a raw server code stands for; an unknown one is a matter of geometry. -/
def ofCode (code : String) : RejectionReason :=
  let comparable := (comparableCode code).toList
  if occursIn "NOT_YOUR_TURN".toList comparable || occursIn "NOT_MY_TURN".toList comparable then
    notYourTurn
  else if occursIn "OCCUPIED".toList comparable then occupied
  else invalidGeometry

/-- The short name of a reason. -/
def name : RejectionReason → String
  | occupied => "Occupied"
  | invalidGeometry => "InvalidGeometry"
  | notYourTurn => "NotYourTurn"

/-- What the player is told. -/
def userMessage : RejectionReason → String
  | occupied => "That space is already taken."
  | invalidGeometry =>
    "That piece can't go there. It must touch one of your corners and no edges."
  | notYourTurn => "It's not your turn."

end RejectionReason

/-- Why the connection to the match ended. -/
inductive DisconnectReason where
  | auth
  | duplicateLogin
  | timeout
  | serverError
  | network
  deriving DecidableEq, Repr

namespace DisconnectReason

/-- Every reason. -/
def all : List DisconnectReason := [auth, duplicateLogin, timeout, serverError, network]

/-- The reason that a raw server code stands for; an unknown one is a matter of the network. -/
def ofCode (code : String) : DisconnectReason :=
  let comparable := comparableCode code
  if comparable ∈ ["DUPLICATE_USER_IP", "DUPLICATE_LOGIN"] then duplicateLogin
  else if comparable ∈
      ["TOKEN_EXPIRED", "INVALID_TOKEN", "AUTHENTICATION_FAILED", "UNAUTHORIZED"] then
    auth
  else if comparable = "TIMEOUT" then timeout
  else if comparable = "SERVER_ERROR" then serverError
  else network

/-- The short name of a reason. -/
def name : DisconnectReason → String
  | auth => "Auth"
  | duplicateLogin => "DuplicateLogin"
  | timeout => "Timeout"
  | serverError => "ServerError"
  | network => "Network"

/-- What the player is told before leaving the match. -/
def userMessage : DisconnectReason → String
  | auth => "Your session has expired. Please log in again."
  | duplicateLogin => "This account was signed in from another device."
  | timeout => "The connection to the server timed out."
  | serverError => "The server ran into a problem and closed the match."
  | network => "Lost connection to the server."

end DisconnectReason

/-- A failure of synchronization. -/
inductive SyncError where
  | malformedBoard (rows : Nat) (widest : Nat)
  | invalidSlot (number : Int)
  | staleTurnAttempt
  | placementRejected (reason : RejectionReason)
  | duplicateSubmission
  | desyncDetected (waited : Duration)
  | disconnected (reason : DisconnectReason)
  deriving DecidableEq, Repr

namespace SyncError

/-- The failure for a number that names no seat. -/
def ofSlotError (error : SlotError) : SyncError := invalidSlot error.raw

/-- The failure for a snapshot that is no board; an unknown code counts as an unknown seat. -/
def ofBoardError : BoardError → SyncError
  | .malformed rows widest => malformedBoard rows widest
  | .invalidCell _ _ code => invalidSlot code

/-- The wording of the failure. -/
def message : SyncError → String
  | malformedBoard rows widest => s!"malformed board state ({rows} rows, widest row {widest})"
  | invalidSlot number => s!"invalid slot {number}"
  | staleTurnAttempt => "turn expired before the placement was confirmed"
  | placementRejected reason => "placement rejected: " ++ reason.name
  | duplicateSubmission => "duplicate submission dropped"
  | desyncDetected waited => "no turn change " ++ waited.text ++ " after local turn expired"
  | disconnected reason => "disconnected: " ++ reason.name

/-- What the player is told, for the failures that are shown. -/
def userMessage : SyncError → Option String
  | placementRejected reason => some reason.userMessage
  | disconnected reason => some reason.userMessage
  | _ => none

/-- Whether the failure is shown to the player. -/
def isUserFacing : SyncError → Bool
  | placementRejected _ => true
  | disconnected _ => true
  | _ => false

end SyncError

/-- Why a local input was refused. -/
inductive PredictionError where
  | notLocalTurn
  | awaitingServer
  | noActivePreview
  | locallyInvalid
  | staleTurnAttempt
  | duplicateSubmission
  | sessionClosed
  deriving DecidableEq, Repr

namespace PredictionError

/-- The wording of the refusal. -/
def message : PredictionError → String
  | notLocalTurn => "not the local player's turn"
  | awaitingServer => "waiting for the server to answer the last placement"
  | noActivePreview => "no placement preview is active"
  | locallyInvalid => "previewed placement is not legal"
  | staleTurnAttempt => "turn expired before confirmation"
  | duplicateSubmission => "identical placement already in flight"
  | sessionClosed => "match session is closed"

/-- The failure of synchronization that the refusal amounts to, if any. -/
def toSyncError? : PredictionError → Option SyncError
  | staleTurnAttempt => some .staleTurnAttempt
  | duplicateSubmission => some .duplicateSubmission
  | _ => none

end PredictionError

end TileMatch
