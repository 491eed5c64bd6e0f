/-!
# Log records

A record has a level and named fields. The field `message` holds the text of the record.
-/

namespace TileMatch

namespace Log

/-- How serious a record is. -/
inductive Level where
  | error
  | warn
  | info
  | debug
  | trace
  deriving DecidableEq, Repr

namespace Level

/-- The place of a level, the most serious one first. -/
def rank : Level → Nat
  | error => 1
  | warn => 2
  | info => 3
  | debug => 4
  | trace => 5

/-- The name of a level. -/
def text : Level → String
  | error => "ERROR"
  | warn => "WARN"
  | info => "INFO"
  | debug => "DEBUG"
  | trace => "TRACE"

end Level

/-- A record. -/
structure Record where
  level : Level
  fields : List (String × String)
  deriving DecidableEq, Repr

namespace Record

/-- A record with a message before its other fields. -/
def saying (level : Level) (message : String) (fields : List (String × String)) : Record :=
  ⟨level, ("message", message) :: fields⟩

/-- The text of a field. A message stands without its name. -/
def fieldText : String × String → String
  | (name, text) => if name = "message" then text else name ++ "=" ++ text

/-- The fields of a record as text. -/
def body (record : Record) : String := " ".intercalate (record.fields.map fieldText)

/-- A record as a line of text. -/
def line (record : Record) : String := record.level.text ++ " " ++ record.body

end Record

end Log

end TileMatch
