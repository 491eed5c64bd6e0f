import TileMatch.Wire.Value

/-!
# Schemas and how documents are read by them

A `Schema` says which values a type has. A `Source` says how the notation of a document is taken
apart, one level at a time, and `Schema.read` is the one reader for all types and notations.

Fields are found by name in any order. A field that occurs twice is refused, one of unknown name is
passed over, and for one that is left out `Omission` decides.

A notation may limit how deep a document nests. Reading an alternative takes one level, what is
present one, an opened bracket one and a place in it another; what is passed over has to fit into
the levels that are left.
-/

namespace TileMatch.Wire

/-- What happens when a field is left out. -/
inductive Omission where
  /-- The document is refused. -/
  | refused
  /-- The field is absent, unless the fields are listed without names. -/
  | absent
  /-- The field has a value of its own. -/
  | value (value : Value)

mutual

/-- The values of a type. -/
inductive Schema where
  | bool
  | text
  | single
  /-- The integers of a width up to a bound. -/
  | integer (width : Width) (bound : Int)
  | list (item : Schema)
  | pair (first second : Schema)
  | optional (item : Schema)
  | record (name : String) (fields : Fields)
  | choice (variants : Variants)

/-- The fields of a record in their order. -/
inductive Fields where
  | nil
  | cons (name : String) (schema : Schema) (omission : Omission) (rest : Fields)

/-- The alternatives of a choice. -/
inductive Variants where
  | nil
  | plain (name : String) (rest : Variants)
  | wrapped (name : String) (schema : Schema) (rest : Variants)
  | tagged (name : String) (fields : Fields) (rest : Variants)

end

/-- A field that has to be given. -/
def Fields.required (name : String) (schema : Schema) (rest : Fields) : Fields :=
  .cons name schema .refused rest

/-- A field that is absent when it is left out, but has its place in a list without names. -/
def Fields.optional (name : String) (schema : Schema) (rest : Fields) : Fields :=
  .cons name (.optional schema) .absent rest

/-- A field with a value of its own when it is left out. -/
def Fields.defaulted (name : String) (schema : Schema) (value : Value) (rest : Fields) : Fields :=
  .cons name schema (.value value) rest

/-- The integers of a width. -/
def Schema.ofWidth (width : Width) : Schema := .integer width width.greatest

/-- The alternatives that are names alone. -/
def Variants.ofNames : List String → Variants
  | [] => .nil
  | name :: rest => .plain name (ofNames rest)

/-- A choice among names. -/
def Schema.ofNames (names : List String) : Schema := .choice (.ofNames names)

/-- The fields of a record as a document gives them. -/
structure Entries (Document : Type) where
  entries : List (String × Document)
  /-- Whether the document lists them without names. -/
  byPosition : Bool

/-- What a document says of an alternative beside its name. -/
structure Payload (Document : Type) where
  /-- Whether there is nothing beside the name. -/
  isPlain : Bool
  /-- The one value held, looked for as a record or as anything else. -/
  wrapped? : Bool → Option Document
  /-- The fields held, given their names in order. -/
  tagged? : List String → Option (Entries Document)

/-- How a notation is taken apart, one level at a time. -/
structure Source (Document : Type) where
  bool? : Document → Option Bool
  text? : Document → Option String
  single? : Document → Option Binary32
  integer? : Width → Document → Option Int
  list? : Document → Option (List Document)
  pair? : Document → Option (Document × Document)
  /-- What may be absent; `none` inside says that it is. What is present is looked for as a record
  or as anything else. -/
  optional? : Bool → Document → Option (Option Document)
  /-- The fields of a record of given name, given their names in order. -/
  record? : String → List String → Document → Option (Entries Document)
  variant? : Document → Option (String × Payload Document)
  /-- The number of levels that a document may have. -/
  room : Nat
  /-- Whether a document may be passed over where a number of levels is left. -/
  passes : Nat → Document → Bool

namespace Schema

/-- Whether the values are records. -/
def isRecord : Schema → Bool
  | record _ _ => true
  | _ => false

end Schema

namespace Fields

/-- The names of the fields in their order. -/
def names : Fields → List String
  | nil => []
  | cons name _ _ rest => name :: rest.names

end Fields

/-- What becomes of a field that is left out. -/
def Omission.fill? (omission : Omission) (byPosition : Bool) : Option Value :=
  match omission with
  | .refused => none
  | .absent => if byPosition then none else some .absent
  | .value default => some default

/-- Whether the entries of unknown name may be passed over where a number of levels is left. -/
def Entries.passable {Document : Type} (source : Source Document) (names : List String)
    (room : Nat) (entries : Entries Document) : Bool :=
  entries.entries.all fun (name, document) => names.contains name || source.passes room document

mutual

/-- Reads a document by a schema where a number of levels is left, here and below. -/
def Schema.read {Document : Type} (source : Source Document) :
    Schema → Nat → Document → Option Value
  | .bool, _, document => (source.bool? document).map .bool
  | .text, _, document => (source.text? document).map .text
  | .single, _, document => (source.single? document).map .single
  | .integer width bound, _, document =>
    (source.integer? width document).bind fun value =>
      if width.contains value && value ≤ bound then some (.integer value) else none
  | .list item, room, document =>
    (source.list? document).bind fun items => (items.mapM (item.read source (room - 2))).map .list
  | .pair first second, room, document =>
    (source.pair? document).bind fun items =>
      (first.read source (room - 2) items.1).bind fun firstValue =>
        (second.read source (room - 2) items.2).map (.pair firstValue)
  | .optional item, room, document =>
    (source.optional? item.isRecord document).bind fun inner =>
      match inner with
      | none => some .absent
      | some inner => (item.read source (room - 1) inner).map .present
  | .record name fields, room, document =>
    (source.record? name fields.names document).bind fun entries =>
      if entries.passable source fields.names (room - 2) then
        (fields.read source (room - 2) entries).map (.record name)
      else none
  | .choice variants, room, document =>
    (source.variant? document).bind fun alternative =>
      variants.read source (room - 1) alternative.1 alternative.2

/-- Reads the fields of a record out of the entries of a document. -/
def Fields.read {Document : Type} (source : Source Document) :
    Fields → Nat → Entries Document → Option (List (String × Value))
  | .nil, _, _ => some []
  | .cons name schema omission rest, room, entries =>
    let value := match entries.entries.filter fun entry => entry.1 == name with
      | [] => omission.fill? entries.byPosition
      | [entry] => schema.read source room entry.2
      | _ => none
    value.bind fun value => (rest.read source room entries).map ((name, value) :: ·)

/-- Reads what an alternative of given name holds. -/
def Variants.read {Document : Type} (source : Source Document) :
    Variants → Nat → String → Payload Document → Option Value
  | .nil, _, _, _ => none
  | .plain name rest, room, wanted, payload =>
    if name = wanted then (if payload.isPlain then some (.plain name) else none)
    else rest.read source room wanted payload
  | .wrapped name schema rest, room, wanted, payload =>
    if name = wanted then
      (payload.wrapped? schema.isRecord).bind fun inner =>
        (schema.read source (room - 1) inner).map (.wrapped name)
    else rest.read source room wanted payload
  | .tagged name fields rest, room, wanted, payload =>
    if name = wanted then
      (payload.tagged? fields.names).bind fun entries =>
        if entries.passable source fields.names (room - 2) then
          (fields.read source (room - 2) entries).map (.tagged name)
        else none
    else rest.read source room wanted payload

end

/-- Reads a whole document by a schema. -/
def Schema.readDocument {Document : Type} (source : Source Document) (schema : Schema)
    (document : Document) : Option Value := schema.read source source.room document

end TileMatch.Wire
