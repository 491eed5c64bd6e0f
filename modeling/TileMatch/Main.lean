import TileMatch.Replay.Report

/-!
# The command

Reads the settings directory and the script, replays it, and prints the records that are kept. A
replay that has no end goes on for ever after them.
-/

namespace TileMatch

/-- The settings directory of the user. -/
def userDirectory : IO String := do
  match ← IO.getEnv "XDG_CONFIG_HOME", ← IO.getEnv "HOME" with
  | some directory, home =>
    if directory.startsWith "/" then return directory ++ "/blokus"
    else return (home.map (· ++ "/.config/blokus")).getD "."
  | none, home => return (home.map (· ++ "/.config/blokus")).getD "."

/-- The content of a file as text; the inner part is missing if the bytes are no text. -/
def content (path : String) : IO (Option String) := do
  return String.fromUTF8? (← IO.FS.readBinFile path)

/-- What is in the place of the settings directory of a path. -/
def lookUp (path : String) : IO SettingsDirectory := do
  try
    match ← content (path ++ "/" ++ SettingsDirectory.fileName) with
    | some text => return .present (.text text)
    | none => return .present .binary
  catch
    | .noFileOrDirectory .. =>
      return if SettingsDirectory.mayBeMade path then .missing else .blocked
    | _ => return .blocked

/-- Brings the settings directory of a path into a state. -/
def store (path : String) : SettingsDirectory → IO Unit
  | .present (.text text) => do
    IO.FS.createDirAll path
    IO.FS.writeFile (path ++ "/" ++ SettingsDirectory.fileName) text
  | _ => return

/-- The text of the script of a path. -/
def scriptText (path : String) : IO (Option String) := do
  try content path catch _ => return none

/-- Replays a script. -/
def replay (options : Replay.Options) : IO UInt32 := do
  let path := options.directory.getD (← userDirectory)
  let directory ← lookUp path
  let preparation := options.prepare directory
  if let some error := preparation.failure then
    IO.eprintln ("Failed to load config: " ++ error.message ++ ", using defaults")
  if preparation.directory ≠ directory then
    try store path preparation.directory
    catch _ => IO.eprintln "Failed to load config: failed to write config, using defaults"
  let report := options.report .wrapping preparation.settings (← IO.getEnv "RUST_LOG")
    (← scriptText options.script)
  for record in report.records do
    IO.println record.line
  match report.ending with
  | .success => return 0
  | .failure => return 1
  | .panic =>
    IO.eprintln "the replay panicked"
    return 101
  | .never =>
    repeat IO.sleep 1000
    return 1

end TileMatch

open TileMatch in
/-- Runs the command. -/
def main (arguments : List String) : IO UInt32 := do
  match Replay.CommandLine.ofArguments arguments with
  | .replay options => TileMatch.replay options
  | .help =>
    IO.println Replay.CommandLine.usage
    return 0
  | .misuse =>
    IO.eprintln Replay.CommandLine.usage
    return 2
