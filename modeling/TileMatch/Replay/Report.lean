import TileMatch.Log.Filter
import TileMatch.Replay
import TileMatch.Replay.CommandLine
import TileMatch.Settings.Directory

/-!
# What a replay tells

A replay first loads the settings, which may write the settings file, and then reads the script. Its
report is the list of log records that pass the filter, and how it ends.
-/

namespace TileMatch

namespace Replay

/-- The target of the records of a replay. -/
def target : String := "blokus_replay"

/-- The settings of a replay. -/
structure Preparation where
  settings : Settings
  /-- Why the settings could not be loaded, so that the defaults were taken. -/
  failure : Option SettingsError
  /-- The settings directory afterwards. -/
  directory : SettingsDirectory
  deriving DecidableEq, Repr

/-- Loads the settings of a replay. -/
def Options.prepare (options : Options) (directory : SettingsDirectory) : Preparation :=
  match directory.loadOrCreate with
  | (.ok settings, directory) => ⟨settings.withOverride options.changes, none, directory⟩
  | (.error error, directory) =>
    ⟨Settings.standard.withOverride options.changes, some error, directory⟩

/-- How the program ends, if it does. -/
inductive Ending where
  | success
  | failure
  | panic
  | never
  deriving DecidableEq, Repr

/-- What a replay tells before it ends. -/
structure Report where
  records : List Log.Record
  ending : Ending
  deriving DecidableEq, Repr

/-- Why a script cannot be loaded. -/
inductive LoadError where
  | unreadable
  | unparsable
  deriving DecidableEq, Repr

/-- The text of a script that cannot be loaded. -/
def LoadError.message : LoadError → String
  | unreadable => "failed to read script"
  | unparsable => "failed to parse script"

/-- The text of a session that cannot be joined. -/
def joinMessage (error : SyncError) : String := "failed to start session: " ++ error.message

/-- The record of a script that is about to be replayed. -/
def Script.record (script : Script) (path : String) : Log.Record :=
  .saying .info "replaying" [("path", path), ("room", script.roomId),
    ("steps", toString script.steps.length)]

/-- The record of a result. -/
def Summary.record (summary : Summary) : Log.Record :=
  .saying .info "replay finished" [("steps", toString summary.steps),
    ("ticks", toString summary.ticks), ("placements", toString summary.placements),
    ("passes", toString summary.passes), ("resyncs", toString summary.resyncs),
    ("dropped", toString summary.dropped), ("refused", toString summary.refused),
    ("occupied", toString summary.occupied)]

/-- The record of a failure that was shown to the player. -/
def surfacedRecord (error : SyncError) : Log.Record :=
  .saying .info "surfaced" [("err", error.message), ("message", error.userMessage.getD "")]

/-- The script that a text holds. -/
def Script.load (text : Option String) : Except LoadError Script :=
  match text with
  | none => .error .unreadable
  | some text =>
    match Script.ofText? text with
    | some script => .ok script
    | none => .error .unparsable

/-- All that a replay of a script tells. One that panics, or never ends, tells nothing more after it
has begun. -/
def Script.report (arithmetic : Arithmetic) (script : Script) (path : String)
    (settings : GameSettings) : Report :=
  let (told, ending) := match script.replay arithmetic settings.timing settings.ticksPerSecond with
    | .ok summary => (summary.record :: summary.surfaced.map surfacedRecord, .success)
    | .error (.session error) =>
      ([.saying .error "replay failed" [("err", joinMessage error)]], .failure)
    | .error .panicked => ([], .panic)
    | .error .stalled => ([], .never)
  ⟨script.record path :: told, ending⟩

/-- What a replay tells of what passes the filter, for the text in the place of the script and the
filter of the environment. -/
def Options.report (arithmetic : Arithmetic) (options : Options) (settings : Settings)
    (environment : Option String) (text : Option String) : Report :=
  let filter := Log.Filter.select environment settings.debug.logLevel
  let report : Report := match Script.load text with
    | .error error => ⟨[.saying .error "cannot load script" [("err", error.message)]], .failure⟩
    | .ok script => script.report arithmetic options.script settings.game
  { report with records := report.records.filter (filter.admits target) }

end Replay

end TileMatch
