import TileMatch.Wire.Json
import TileMatch.Wire.Schema

/-!
# The JSON notation of values

A record is an object, or an array of its fields in their order; an alternative is its name, or an
object whose one member has that name. What is absent is `null`. Numbers of single precision are
written in their shortest decimal form.

A text is read directly: a number of single precision is rounded once and has to be finite, and the
fields of an alternative may be an array too. A document that is given as a tree has its numbers in
double precision, so that they are rounded again, maybe to infinity, and an alternative has its
fields in an object.
-/

namespace TileMatch.Wire

namespace Json

/-- A member whose name is a text. -/
def namedMember? (member : Option String × Json) : Option (String × Json) :=
  member.1.map fun name => (name, member.2)

/-- The number of single precision that a numeral stands for, unless it is too large. -/
def finite? (decimal : Decimal) : Option Binary32 :=
  let number := Binary32.ofDecimal decimal
  if number.isFinite then some number else none

/-- A number of single precision. -/
def single? : Json → Option Binary32
  | integer value => finite? ⟨value < 0, value.natAbs, 0⟩
  | decimal value => finite? value
  | _ => none

/-- A number of single precision by way of double precision, if it is not an integer of 64 bits. -/
def singleOfDouble? : Json → Option Binary32
  | integer value =>
    let decimal : Decimal := ⟨value < 0, value.natAbs, 0⟩
    some <| if Width.signed64.contains value || Width.unsigned64.contains value then
      Binary32.ofDecimal decimal else Binary32.ofDoubleDecimal decimal
  | decimal value => some (Binary32.ofDoubleDecimal value)
  | _ => none

/-- The members of an object as the fields of a record. -/
def members? : Json → Option (Entries Json)
  | object members => (members.mapM namedMember?).map fun entries => ⟨entries, false⟩
  | _ => none

/-- The fields of a record: the members of an object, or the items of an array that is not longer
than the record. -/
def entries? (names : List String) : Json → Option (Entries Json)
  | array items => if items.length ≤ names.length then some ⟨names.zip items, true⟩ else none
  | document => members? document

/-- An alternative with what it holds, given how its fields are found by their names. -/
def variant? (fields? : List String → Json → Option (Entries Json)) :
    Json → Option (String × Payload Json)
  | text (some name) => some (name, ⟨true, fun _ => none, fun _ => none⟩)
  | object [(some name, value)] =>
    some (name, ⟨value matches null, fun _ => some value, fun names => fields? names value⟩)
  | _ => none

/-- How a JSON text is taken apart. -/
def source : Source Json where
  bool?
    | bool value => some value
    | _ => none
  text?
    | text content => content
    | _ => none
  single? := single?
  integer? _
    | integer value => some value
    | _ => none
  list?
    | array items => some items
    | _ => none
  pair?
    | array [first, second] => some (first, second)
    | _ => none
  optional? _
    | null => some none
    | document => some (some document)
  record? _ names document := entries? names document
  variant? := variant? entries?
  room := 0
  passes _ _ := true

/-- How a JSON document is taken apart that is given as a tree. -/
def treeSource : Source Json :=
  { source with single? := singleOfDouble?, variant? := variant? fun _ => members? }

end Json

namespace Value

mutual

/-- The JSON document for a value. -/
def toJson : Value → Json
  | bool value => .bool value
  | integer value => .integer value
  | single value => .decimal value.shortest
  | text value => .text (some value)
  | list items => .array (listToJson items)
  | pair first second => .array [first.toJson, second.toJson]
  | absent => .null
  | present value => value.toJson
  | record _ fields => .object (fieldsToJson fields)
  | plain name => .text (some name)
  | wrapped name value => .object [(some name, value.toJson)]
  | tagged name fields => .object [(some name, .object (fieldsToJson fields))]

/-- The items of an array. -/
def listToJson : List Value → List Json
  | [] => []
  | item :: rest => item.toJson :: listToJson rest

/-- The members of an object. -/
def fieldsToJson : List (String × Value) → List (Option String × Json)
  | [] => []
  | (name, value) :: rest => (some name, value.toJson) :: fieldsToJson rest

end

end Value

namespace Schema

/-- The value that a JSON text holds by a schema. -/
def readJsonText? (schema : Schema) (text : String) : Option Value :=
  (Json.ofText? text).bind (schema.readDocument Json.source)

end Schema

end TileMatch.Wire
