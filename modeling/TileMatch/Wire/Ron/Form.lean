import TileMatch.Text.Printable
import TileMatch.Wire.Ron
import TileMatch.Wire.Schema

/-!
# The RON notation of values

A record is written as named fields in parentheses, and its name may stand before them. An
alternative is its name, followed by parentheses if it holds something. What may be absent is `None`
or stands in `Some(…)`. Extensions change this: the `Some` may be left out, the parentheses of a
record that an alternative holds may be left out, and the name of a record may be demanded.

A document is written with a line for every field of its outer two levels.
-/

namespace TileMatch.Wire

namespace Ron

/-- The value held in the parentheses of an alternative. When newtypes are unwrapped, the
parentheses around a record are the record's own. -/
def held? (extensions : Extensions) (isRecord : Bool) : Ron → Option Ron
  | items _ held =>
    if extensions.unwrapVariantNewtypes && isRecord then
      if held.isEmpty then some (unwrapped []) else none
    else
      match held with
      | [value] => some value
      | _ => none
  | fields _ held =>
    if extensions.unwrapVariantNewtypes && isRecord then some (unwrapped held) else none
  | _ => none

/-- Fields that all have names. -/
def ofEntries? (entries : List (Ron × Ron)) : Option (Entries Ron) :=
  (entries.mapM fun (entry : Ron × Ron) => entry.1.fieldName?.map fun name => (name, entry.2)).map
    fun named => ⟨named, false⟩

/-- The fields in the parentheses of a document. -/
def namedFields? : Ron → Option (Entries Ron)
  | unit => some ⟨[], false⟩
  | items _ [] => some ⟨[], false⟩
  | fields _ entries => ofEntries? entries
  | unwrapped entries => ofEntries? entries
  | _ => none

/-- Whether the name before the parentheses of a record is as it has to be. -/
def hasRecordName (extensions : Extensions) (name : String) : Ron → Bool
  | unit => !extensions.explicitStructNames
  | items written _ => written.elim (!extensions.explicitStructNames) (· == name)
  | fields written _ => written.elim (!extensions.explicitStructNames) (· == name)
  | unwrapped _ => true
  | _ => false

/-- What may be absent. -/
def optional? (extensions : Extensions) (isRecord : Bool) (document : Ron) : Option (Option Ron) :=
  match document with
  | absent => some none
  | present _ (unwrapped named) => some (some (unwrapped named))
  | present bracketed held =>
    if extensions.unwrapVariantNewtypes && isRecord && bracketed then none else some (some held)
  | _ => if extensions.implicitSome then some (some document) else none

/-- An alternative with what it holds. -/
def variant? (extensions : Extensions) (document : Ron) : Option (String × Payload Ron) :=
  let holding : Payload Ron :=
    ⟨false, fun isRecord => held? extensions isRecord document, fun _ => namedFields? document⟩
  match document with
  | word name => some (name, ⟨true, fun _ => none, fun _ => none⟩)
  | items (some name) _ => some (name, holding)
  | fields (some name) _ => some (name, holding)
  | _ => none

/-- How a RON document is taken apart. -/
def source (extensions : Extensions) : Source Ron where
  bool?
    | bool value => some value
    | _ => none
  text?
    | text content => some content
    | _ => none
  single?
    | numeral characters => singleOf? characters
    | _ => none
  integer? width
    | numeral characters => integerOf? width characters
    | byte value => if width = .unsigned8 then some value else none
    | _ => none
  list?
    | list content => some content
    | _ => none
  pair?
    | items none [first, second] => some (first, second)
    | items none [first, second, nothing] => some (first, second)
    | _ => none
  optional? := optional? extensions
  record? name _ document :=
    if hasRecordName extensions name document then namedFields? document else none
  variant? := variant? extensions
  room := 128
  passes := mayBePassed

/-- The hexadecimal digits of a number, in lower case. -/
def hexDigits (number : Nat) : List Char := Nat.toDigits 16 number

/-- A character of a text literal as it is written: quotes, backslashes and common controls with a
letter, what is not printable by its code point, and all else as it is. -/
def escapeChar (c : Char) : List Char :=
  if c = '\x00' then ['\\', '0']
  else if c = '\t' then ['\\', 't']
  else if c = '\r' then ['\\', 'r']
  else if c = '\n' then ['\\', 'n']
  else if c = '"' ∨ c = '\'' ∨ c = '\\' then ['\\', c]
  else if Text.isPrintable c then [c]
  else '\\' :: 'u' :: '\x7b' :: hexDigits c.toNat ++ ['\x7d']

/-- A text literal. -/
def quote (content : String) : String :=
  String.ofList ('"' :: content.toList.flatMap escapeChar ++ ['"'])

/-- Spaces at the start of a line of given depth. -/
def indent (depth : Nat) : String := String.ofList (List.replicate (4 * depth) ' ')

end Ron

namespace Value

mutual

/-- The RON text of a value, from a line of given depth on. Records have a line for every field. -/
def ronText (depth : Nat) : Value → String
  | bool value => if value then "true" else "false"
  | integer value => toString value
  | single value => value.text
  | text value => Ron.quote value
  | list items => "[" ++ ronItems depth items ++ "]"
  | pair first second => "(" ++ first.ronText depth ++ ", " ++ second.ronText depth ++ ")"
  | absent => "None"
  | present value => "Some(" ++ value.ronText depth ++ ")"
  | record _ fields => "(\n" ++ ronFields (depth + 1) fields ++ Ron.indent depth ++ ")"
  | plain name => name
  | wrapped name value => name ++ "(" ++ value.ronText depth ++ ")"
  | tagged name fields => name ++ "(\n" ++ ronFields (depth + 1) fields ++ Ron.indent depth ++ ")"

/-- The items of a list, on one line. -/
def ronItems (depth : Nat) : List Value → String
  | [] => ""
  | [item] => item.ronText depth
  | item :: rest => item.ronText depth ++ ", " ++ ronItems depth rest

/-- The lines of the fields of a record. -/
def ronFields (depth : Nat) : List (String × Value) → String
  | [] => ""
  | (name, value) :: rest =>
    Ron.indent depth ++ name ++ ": " ++ value.ronText depth ++ ",\n" ++ ronFields depth rest

end

end Value

namespace Schema

/-- The value that a RON text holds by a schema. -/
def readRonText? (schema : Schema) (text : String) : Option Value :=
  (Ron.ofText? text).bind fun (extensions, document) =>
    schema.readDocument (Ron.source extensions) document

end Schema

end TileMatch.Wire
