import TileMatch.Settings

/-!
# The command line

The command takes one script and options that override the settings. Arguments are read from left to
right; the first one that asks for help or cannot be read decides.
-/

namespace TileMatch

namespace Replay

/-- What a replay is started with. -/
structure Options where
  /-- The path of the script. -/
  script : String
  /-- The path of the settings directory. -/
  directory : Option String
  changes : SettingsOverride
  deriving DecidableEq, Repr

/-- What a command line asks for. -/
inductive CommandLine where
  | replay (options : Options)
  | help
  | misuse
  deriving DecidableEq, Repr

namespace CommandLine

/-- An option that takes a value. -/
inductive Setting where
  | server
  | port
  | logLevel
  | directory
  deriving DecidableEq, Repr

/-- The option of a name. -/
def Setting.ofName? : String → Option Setting
  | "server" => some .server
  | "port" => some .port
  | "log-level" => some .logLevel
  | "config" => some .directory
  | _ => none

/-- What has been read of a command line. -/
structure Draft where
  script : Option String
  directory : Option String
  changes : SettingsOverride

/-- Nothing has been read. -/
def Draft.empty : Draft := ⟨none, none, ⟨none, none, none⟩⟩

/-- The port that a text writes: a number with at most sixteen bits. It may have a sign. -/
def port? (text : String) : Option Nat :=
  let read (digits : List Char) : Option Nat :=
    if digits.isEmpty || !digits.all Char.isDigit then none
    else
      let port := digits.foldl (fun value digit => 10 * value + (digit.toNat - '0'.toNat)) 0
      if port < 0x10000 then some port else none
  match text.toList with
  | '+' :: digits => read digits
  | '-' :: digits => (read digits).filter (· == 0)
  | digits => read digits

/-- Takes the value of an option that has not been given yet. -/
def Draft.take? (draft : Draft) (value : String) : Setting → Option Draft
  | .server =>
    if draft.changes.server.isSome then none
    else some { draft with changes := { draft.changes with server := some value } }
  | .port =>
    if draft.changes.port.isSome then none
    else (port? value).map fun port =>
      { draft with changes := { draft.changes with port := some port } }
  | .logLevel =>
    if draft.changes.logLevel.isSome then none
    else some { draft with changes := { draft.changes with logLevel := some value } }
  | .directory =>
    if draft.directory.isSome || value.isEmpty then none
    else some { draft with directory := some value }

/-- Takes the path of the script. -/
def Draft.takeScript? (draft : Draft) (path : String) : Option Draft :=
  if draft.script.isSome || path.isEmpty then none else some { draft with script := some path }

/-- What a command line asks for that has been read to its end. -/
def Draft.finish (draft : Draft) : CommandLine :=
  match draft.script with
  | some script => .replay ⟨script, draft.directory, draft.changes⟩
  | none => .misuse

/-- Reads arguments of which none is an option. -/
def readPaths (draft : Draft) : List String → CommandLine
  | [] => draft.finish
  | path :: rest =>
    match draft.takeScript? path with
    | some draft => readPaths draft rest
    | none => .misuse

/-- What kind of argument a text is. -/
inductive Argument where
  /-- The mark behind which there are no options. -/
  | separator
  /-- The name of an option and the text behind an equals sign. -/
  | long (name : String) (value : Option String)
  /-- Letters of options. -/
  | short (letters : List Char)
  | path (text : String)

/-- The kind of an argument. A lone hyphen is a path. -/
def Argument.ofText (text : String) : Argument :=
  match text.toList with
  | ['-', '-'] => .separator
  | '-' :: '-' :: rest =>
    let (name, value) := rest.span (· != '=')
    .long (String.ofList name)
      (match value with
        | [] => none
        | _ :: value => some (String.ofList value))
  | ['-'] => .path text
  | '-' :: letters => .short letters
  | _ => .path text

/-- Reads arguments. -/
def read (draft : Draft) : List String → CommandLine
  | [] => draft.finish
  | argument :: rest =>
    match Argument.ofText argument with
    | .separator => readPaths draft rest
    | .short ('h' :: _) => .help
    | .short _ => .misuse
    | .path path =>
      match draft.takeScript? path with
      | some draft => read draft rest
      | none => .misuse
    | .long "help" none => .help
    | .long name (some value) =>
      match (Setting.ofName? name).bind (draft.take? value) with
      | some draft => read draft rest
      | none => .misuse
    | .long name none =>
      match Setting.ofName? name, rest with
      | some setting, value :: rest =>
        match Argument.ofText value with
        | .path value =>
          match draft.take? value setting with
          | some draft => read draft rest
          | none => .misuse
        | _ => .misuse
      | _, _ => .misuse

/-- How the command is used. -/
def usage : String := "\n".intercalate [
  "Replay a scripted Blokus match", "",
  "Usage: blokus-replay [OPTIONS] <SCRIPT>", "",
  "Arguments:",
  "  <SCRIPT>  RON script of timed server events and local inputs", "",
  "Options:",
  "      --server <SERVER>        Server address",
  "      --port <PORT>            Server port",
  "      --log-level <LOG_LEVEL>  Log level (error, warn, info, debug, trace)",
  "      --config <CONFIG>        Path to config directory (overrides default location)",
  "  -h, --help                   Print help"]

/-- What arguments ask for. -/
def ofArguments (arguments : List String) : CommandLine := read .empty arguments

end CommandLine

end Replay

end TileMatch
