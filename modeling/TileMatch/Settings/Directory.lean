import TileMatch.Settings

/-!
# The settings file

The settings are kept in one file of a directory. Loading reads the file and never changes it; when
there is none, the defaults are written so that there is something to edit. What can be in the place
of the directory and of the file is part of the state, so the failures are values too.
-/

namespace TileMatch

/-- What is in the place of the settings file. -/
inductive SettingsFile where
  | missing
  | text (content : String)
  /-- A file whose bytes are no text. -/
  | binary
  /-- A directory. -/
  | folder
  deriving DecidableEq, Repr

/-- What is in the place of the settings directory. -/
inductive SettingsDirectory where
  | missing
  | present (file : SettingsFile)
  /-- A file. -/
  | blocked
  deriving DecidableEq, Repr

/-- Why settings could not be loaded or saved. -/
inductive SettingsError where
  | unreadable
  | unwritable
  | unparsable
  deriving DecidableEq, Repr

/-- The text of a failure. -/
def SettingsError.message : SettingsError → String
  | unreadable => "failed to read config"
  | unwritable => "failed to write config"
  | unparsable => "failed to parse config"

namespace SettingsDirectory

/-- The name of the settings file. -/
def fileName : String := "config.ron"

/-- Whether a directory that is missing can be made under a path. A lone point at the end stands for
the directory before it, which has to be there already. -/
def mayBeMade (path : String) : Bool :=
  ((path.splitOn "/").filter (· != "")).getLast? != some "."

/-- What is in the place of the settings file. -/
def file : SettingsDirectory → SettingsFile
  | present file => file
  | _ => .missing

/-- Writes the settings file, and the directory before it if it is missing. -/
def save (directory : SettingsDirectory) (settings : Settings) :
    Except SettingsError SettingsDirectory :=
  match directory with
  | blocked => .error .unwritable
  | present .folder => .error .unwritable
  | _ => .ok (present (.text settings.text))

/-- Loads the settings, writing the defaults when there is no file. The second part is the directory
afterwards. -/
def loadOrCreate (directory : SettingsDirectory) :
    Except SettingsError Settings × SettingsDirectory :=
  match directory with
  | present (.text content) =>
    match Settings.ofText? content with
    | some settings => (.ok settings, directory)
    | none => (.error .unparsable, directory)
  | present .binary => (.error .unreadable, directory)
  | present .folder => (.error .unreadable, directory)
  | blocked => (.error .unreadable, directory)
  | _ =>
    match directory.save .standard with
    | .ok directory => (.ok .standard, directory)
    | .error error => (.error error, directory)

end SettingsDirectory

end TileMatch
