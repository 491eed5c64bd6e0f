import TileMatch.Log.FieldTest
import TileMatch.Log.Record

/-!
# Log filters

A filter is a list of directives, separated by commas. A directive says up to which level records
are kept, for all records or for those of a target whose name begins with the directive's. It can
also ask for a field that a record has to have, or speak only of what happens inside a span; records
outside of all spans are never kept by such a directive.

A directive is divided without the blanks at its ends, but its parts are then taken by their places
from the text with the blanks. So blanks at the start move all parts towards the start, and blanks
at the end belong to the last part.

Of the directives that apply to a record the most specific one decides: the one with the longest
target, then the one with a field. Of equally specific directives the last one decides.
-/

namespace TileMatch

namespace Log

/-- Up to which level records are kept. -/
inductive Verbosity where
  | off
  | upTo (level : Level)
  deriving DecidableEq, Repr

namespace Verbosity

/-- Whether records of a level are kept. -/
def admits : Verbosity → Level → Bool
  | off, _ => false
  | upTo limit, level => level.rank ≤ limit.rank

/-- The verbosity of a number. -/
def ofNumber? : Nat → Option Verbosity
  | 0 => some off
  | 1 => some (upTo .error)
  | 2 => some (upTo .warn)
  | 3 => some (upTo .info)
  | 4 => some (upTo .debug)
  | 5 => some (upTo .trace)
  | _ => none

/-- The verbosity of a name, in capital or small letters. -/
def ofName? (name : List Char) : Option Verbosity :=
  match String.ofList (name.map Char.toLower) with
  | "off" => some off
  | "error" => some (upTo .error)
  | "warn" => some (upTo .warn)
  | "info" => some (upTo .info)
  | "debug" => some (upTo .debug)
  | "trace" => some (upTo .trace)
  | _ => none

/-- The number that digits write. -/
def number? (digits : List Char) : Option Nat :=
  if digits.isEmpty || !digits.all Char.isDigit then none
  else some (digits.foldl (fun value digit => 10 * value + (digit.toNat - '0'.toNat)) 0)

/-- The verbosity that a text names or numbers. A number may have a plus sign. -/
def ofText? (text : List Char) : Option Verbosity :=
  let digits := match text with
    | '+' :: digits => digits
    | digits => digits
  ((number? digits).bind ofNumber?).or (ofName? text)

end Verbosity

/-- The number of bytes of characters in UTF-8. -/
def byteCount (characters : List Char) : Nat :=
  characters.foldl (fun bytes c => bytes + c.utf8Size) 0

/-- The characters in a number of bytes, and what follows them, unless a character is cut. -/
def splitBytes? : Nat → List Char → Option (List Char × List Char)
  | 0, characters => some ([], characters)
  | _ + 1, [] => none
  | bytes + 1, c :: rest =>
    if c.utf8Size ≤ bytes + 1 then
      (splitBytes? (bytes + 1 - c.utf8Size) rest).map fun result => (c :: result.1, result.2)
    else none
termination_by _ characters => characters

/-- A part of a filter. -/
structure Directive where
  /-- How the target has to begin. -/
  target : Option String
  /-- The span in which records have to be. -/
  span : Option String
  field : Option FieldTest
  verbosity : Verbosity
  deriving DecidableEq, Repr

namespace Directive

/-- Whether a directive may begin with a character. -/
def isStart (c : Char) : Bool :=
  c == '[' || c == '-' || c == ':' || c == '_' || Text.isAlphanumeric c

/-- The text of a directive and its characters without the blanks at both ends. -/
structure Division where
  text : List Char
  characters : List Char

namespace Division

/-- What stands in the text from the place of a character on. -/
def suffix? (division : Division) (start : Nat) : Option (List Char) :=
  (splitBytes? (byteCount (division.characters.take start)) division.text).map Prod.snd

/-- What stands in the text in the place of some characters. -/
def part? (division : Division) (start length : Nat) : Option (List Char) :=
  (division.suffix? start).bind fun rest =>
    (splitBytes? (byteCount ((division.characters.drop start).take length)) rest).map Prod.fst

/-- The verbosity from the place of a character on. Without a text everything is kept. -/
def verbosity? (division : Division) (start : Nat) : Option Verbosity :=
  (division.suffix? start).bind fun text =>
    if text.isEmpty then some (.upTo .trace) else Verbosity.ofText? text

/-- The verbosity at the end of a directive. Without an equals sign everything is kept. -/
def ending? (division : Division) (start : Nat) : Option Verbosity :=
  match division.characters.drop start with
  | [] => some (.upTo .trace)
  | '=' :: _ => division.verbosity? (start + 1)
  | _ => none

/-- A directive whose span and field are in brackets, given its target and where the brackets have
been opened. -/
def scoped? (division : Division) (target : Option String) (start : Nat) : Option Directive :=
  let inside := division.characters.drop start
  let span := (inside.takeWhile fun c => c != ']' && c != '\x7b').length
  match inside.drop span with
  | ']' :: _ => do
    let name ← division.part? start span
    return ⟨target, some (String.ofList name), none, ← division.ending? (start + span + 1)⟩
  | '\x7b' :: inside => do
    let name ← division.part? start span
    let length := (inside.takeWhile (· != '\x7d')).length
    let fieldStart := start + span + 1
    let field ← FieldTest.ofText? (← division.part? fieldStart length)
    match length, inside.drop length with
    | _ + 1, '\x7d' :: ']' :: _ =>
      return ⟨target, if span = 0 then none else some (String.ofList name), some field,
        ← division.ending? (fieldStart + length + 2)⟩
    | _, _ => none
  | _ => none

/-- The directive of a text. A text that is no level is a target of which everything is kept. -/
def directive? (division : Division) : Option Directive :=
  let length := (division.characters.takeWhile fun c => c != '=' && c != '[').length
  if !division.characters.head?.any isStart then none
  else
    match division.characters.drop length with
    | [] =>
      match Verbosity.ofText? division.text with
      | some verbosity => some ⟨none, none, none, verbosity⟩
      | none => some ⟨some (String.ofList division.text), none, none, .upTo .trace⟩
    | separator :: _ => do
      let target ← if length = 0 then some none
        else (division.part? 0 length).map fun name => some (String.ofList name)
      if separator = '[' then division.scoped? target (length + 1)
      else return ⟨target, none, none, ← division.verbosity? (length + 1)⟩

end Division

/-- The directive that a text writes. -/
def ofText? (text : List Char) : Option Directive := Division.directive? ⟨text, Text.trim text⟩

/-- Whether a directive can speak of records outside of all spans. -/
def isGlobal (directive : Directive) : Bool :=
  directive.span.isNone && directive.field.all (fun field => !field.hasValue)

/-- Whether a directive applies to a record of a target. -/
def applies (directive : Directive) (target : String) (record : Record) : Bool :=
  directive.isGlobal && (directive.target.getD "").toList.isPrefixOf target.toList &&
    directive.field.all fun field => record.fields.any fun (name, _) => name == field.name

/-- The order of directives by what they ask for, the least specific one first. -/
def specificity (left right : Directive) : Ordering :=
  let size (directive : Directive) : Nat :=
    (directive.target.map fun target => target.utf8ByteSize + 1).getD 0
  let name (directive : Directive) : Option String := directive.field.map FieldTest.name
  (compare (size left) (size right)).then (compare (name left) (name right))

end Directive

/-- A list of directives. -/
structure Filter where
  directives : List Directive
  deriving DecidableEq, Repr

namespace Filter

/-- The texts of the directives in a text. -/
def parts (text : String) : List (List Char) :=
  (text.toList.splitOn ',').filter fun part => !part.isEmpty

/-- The filter that a text writes, if all of its directives can be read. -/
def ofText? (text : String) : Option Filter := ((parts text).mapM Directive.ofText?).map Filter.mk

/-- The filter of those directives of a text that can be read. Without any, errors alone are
kept. -/
def ofReadable (text : String) : Filter :=
  match (parts text).filterMap Directive.ofText? with
  | [] => ⟨[⟨none, none, none, .upTo .error⟩]⟩
  | directives => ⟨directives⟩

/-- The filter of the environment, if it has one that can be read, and that of the settings else.
Settings that say nothing keep records up to information. -/
def select (environment : Option String) (configured : String) : Filter :=
  match environment.bind ofText? with
  | some filter => filter
  | none => ofReadable (if configured.isEmpty then "info" else configured)

/-- The directive that decides on a record of a target. -/
def decisive? (filter : Filter) (target : String) (record : Record) : Option Directive :=
  (filter.directives.filter fun directive => directive.applies target record).foldl
    (fun best directive =>
      match best with
      | some other =>
        if other.specificity directive = .gt then some other else some directive
      | none => some directive)
    none

/-- Whether a record of a target is kept. -/
def admits (filter : Filter) (target : String) (record : Record) : Bool :=
  match filter.decisive? target record with
  | some directive => directive.verbosity.admits record.level
  | none => false

end Filter

end Log

end TileMatch
