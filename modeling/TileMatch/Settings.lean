import TileMatch.Session
import TileMatch.Wire.Form

/-!
# Settings

The settings of a client in three sections. Every field has a default, so a document may leave out
what it likes. A time that a session cannot run with is replaced by its default, one field at a time
and whatever the others are.
-/

namespace TileMatch

open Wire

/-- How the server is reached. -/
structure NetworkSettings where
  serverAddress : String
  serverPort : Nat
  timeoutSeconds : Nat
  deriving DecidableEq, Repr

/-- The times of a match. -/
structure GameSettings where
  /-- How long to wait for a turn change after the local turn has expired. -/
  turnGraceSeconds : Binary32
  /-- How long an unanswered request is held. -/
  requestLifetimeSeconds : Binary32
  ticksPerSecond : Nat
  /-- The length of a turn when the server does not say it. -/
  defaultTurnSeconds : Nat
  deriving DecidableEq, Repr

/-- What is logged. -/
structure DebugSettings where
  logLevel : String
  deriving DecidableEq, Repr

/-- All settings. -/
structure Settings where
  network : NetworkSettings
  game : GameSettings
  debug : DebugSettings
  deriving DecidableEq, Repr

namespace NetworkSettings

/-- The defaults. -/
def standard : NetworkSettings := ⟨"127.0.0.1", 7777, 30⟩

/-- The section as a value. -/
def toValue (settings : NetworkSettings) : Value :=
  .record "NetworkConfig" [("server_address", .text settings.serverAddress),
    ("server_port", .ofNat settings.serverPort),
    ("timeout_seconds", .ofNat settings.timeoutSeconds)]

/-- The section of a value. -/
def ofValue? : Value → Option NetworkSettings
  | .record _ [(_, .text address), (_, port), (_, timeout)] => do
    return ⟨address, ← port.toNat?, ← timeout.toNat?⟩
  | _ => none

/-- The section is a record in which every field may be left out. -/
def schema : Schema := .record "NetworkConfig"
  (.defaulted "server_address" .text (.text standard.serverAddress)
    (.defaulted "server_port" (.ofWidth .unsigned16) (.ofNat standard.serverPort)
      (.defaulted "timeout_seconds" (.ofWidth .unsigned32) (.ofNat standard.timeoutSeconds) .nil)))

instance : Form NetworkSettings := ⟨schema, toValue, ofValue?⟩

end NetworkSettings

namespace GameSettings

/-- The defaults. -/
def standard : GameSettings := ⟨.ofNat 5, .ofNat 10, 60, 30⟩

/-- The section as a value. -/
def toValue (settings : GameSettings) : Value :=
  .record "GameConfig" [("turn_grace_seconds", .single settings.turnGraceSeconds),
    ("dedup_ttl_seconds", .single settings.requestLifetimeSeconds),
    ("tick_rate_hz", .ofNat settings.ticksPerSecond),
    ("default_turn_seconds", .ofNat settings.defaultTurnSeconds)]

/-- The section of a value. -/
def ofValue? : Value → Option GameSettings
  | .record _ [(_, .single grace), (_, .single lifetime), (_, ticks), (_, turn)] => do
    return ⟨grace, lifetime, ← ticks.toNat?, ← turn.toNat?⟩
  | _ => none

/-- The section is a record in which every field may be left out. -/
def schema : Schema := .record "GameConfig"
  (.defaulted "turn_grace_seconds" .single (.single standard.turnGraceSeconds)
    (.defaulted "dedup_ttl_seconds" .single (.single standard.requestLifetimeSeconds)
      (.defaulted "tick_rate_hz" (.ofWidth .unsigned32) (.ofNat standard.ticksPerSecond)
        (.defaulted "default_turn_seconds" (.ofWidth .unsigned32)
          (.ofNat standard.defaultTurnSeconds) .nil))))

instance : Form GameSettings := ⟨schema, toValue, ofValue?⟩

/-- Whether a session can wait for a time: it is a finite number that is not below zero. -/
def graceUsable (seconds : Binary32) : Bool := seconds.isFinite && !seconds.isBelowZero

/-- Whether a session can hold requests for a time: it is a finite number above zero. -/
def lifetimeUsable (seconds : Binary32) : Bool := seconds.isFinite && seconds.isAboveZero

/-- The settings with the default in place of every time that a session cannot run with. -/
def sanitized (settings : GameSettings) : GameSettings where
  turnGraceSeconds :=
    if graceUsable settings.turnGraceSeconds then settings.turnGraceSeconds
    else standard.turnGraceSeconds
  requestLifetimeSeconds :=
    if lifetimeUsable settings.requestLifetimeSeconds then settings.requestLifetimeSeconds
    else standard.requestLifetimeSeconds
  ticksPerSecond :=
    if settings.ticksPerSecond = 0 then standard.ticksPerSecond else settings.ticksPerSecond
  defaultTurnSeconds :=
    if settings.defaultTurnSeconds = 0 then standard.defaultTurnSeconds
    else settings.defaultTurnSeconds

/-- The times of a session. A number of seconds that is no span of time gives way to the standard
time of sessions. -/
def timing (settings : GameSettings) : Timing where
  grace := (Duration.ofSingle? settings.turnGraceSeconds).getD Timing.standard.grace
  lifetime := (Duration.ofSingle? settings.requestLifetimeSeconds).getD Timing.standard.lifetime
  defaultTurn := .ofSeconds settings.defaultTurnSeconds

end GameSettings

namespace DebugSettings

/-- The defaults. -/
def standard : DebugSettings := ⟨"info"⟩

/-- The section as a value. -/
def toValue (settings : DebugSettings) : Value :=
  .record "DebugConfig" [("log_level", .text settings.logLevel)]

/-- The section of a value. -/
def ofValue? : Value → Option DebugSettings
  | .record _ [(_, .text level)] => some ⟨level⟩
  | _ => none

/-- The section is a record in which every field may be left out. -/
def schema : Schema := .record "DebugConfig"
  (.defaulted "log_level" .text (.text standard.logLevel) .nil)

instance : Form DebugSettings := ⟨schema, toValue, ofValue?⟩

end DebugSettings

/-- Settings given on the command line. -/
structure SettingsOverride where
  server : Option String
  port : Option Nat
  logLevel : Option String
  deriving DecidableEq, Repr

namespace Settings

/-- The defaults. -/
def standard : Settings := ⟨.standard, .standard, .standard⟩

/-- The settings as a value. -/
def toValue (settings : Settings) : Value :=
  .record "Config" [("network", settings.network.toValue), ("game", settings.game.toValue),
    ("debug", settings.debug.toValue)]

/-- The settings of a value. -/
def ofValue? : Value → Option Settings
  | .record _ [(_, network), (_, game), (_, debug)] => do
    return ⟨← NetworkSettings.ofValue? network, ← GameSettings.ofValue? game,
      ← DebugSettings.ofValue? debug⟩
  | _ => none

/-- Settings are a record in which every section may be left out. -/
def schema : Schema := .record "Config"
  (.defaulted "network" NetworkSettings.schema NetworkSettings.standard.toValue
    (.defaulted "game" GameSettings.schema GameSettings.standard.toValue
      (.defaulted "debug" DebugSettings.schema DebugSettings.standard.toValue .nil)))

instance : Form Settings := ⟨schema, toValue, ofValue?⟩

/-- The settings with usable times. -/
def sanitized (settings : Settings) : Settings := { settings with game := settings.game.sanitized }

/-- The settings that a document holds, with usable times. -/
def ofText? (text : String) : Option Settings :=
  (Form.ofRonText? text : Option Settings).map sanitized

/-- The document that holds the settings. -/
def text (settings : Settings) : String := Form.ronText settings

/-- The settings with those of the command line in place of their own. -/
def withOverride (settings : Settings) (override : SettingsOverride) : Settings where
  network :=
    { settings.network with
      serverAddress := override.server.getD settings.network.serverAddress
      serverPort := override.port.getD settings.network.serverPort }
  game := settings.game
  debug := ⟨override.logLevel.getD settings.debug.logLevel⟩

end Settings

end TileMatch
