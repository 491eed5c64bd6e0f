import TileMatch.Wire.Json.Form
import TileMatch.Wire.Ron.Form

/-!
# Types with a wire form

A type with a wire form has a schema, a value for each of its elements, and the element of a value.
Then it can be read from both notations.
-/

namespace TileMatch.Wire

/-- A type whose elements are read and written. -/
class Form (α : Type) where
  schema : Schema
  toValue : α → Value
  ofValue? : Value → Option α

namespace Form

variable {α : Type} [Form α]

/-- The element that a JSON document stands for that is given as a tree. -/
def ofJson? (document : Json) : Option α :=
  ((schema α).readDocument Json.treeSource document).bind ofValue?

/-- The element that a JSON text stands for. -/
def ofJsonText? (text : String) : Option α := ((schema α).readJsonText? text).bind ofValue?

/-- The element that a RON text stands for. -/
def ofRonText? (text : String) : Option α := ((schema α).readRonText? text).bind ofValue?

/-- The JSON document for an element. -/
def toJson (element : α) : Json := (toValue element).toJson

/-- The RON text for an element. -/
def ronText (element : α) : String := (toValue element).ronText 0

end Form

end TileMatch.Wire
