import TileMatch.Proofs.Wire.Catalog.Event
import TileMatch.Proofs.Wire.Catalog.Request
import TileMatch.Proofs.Wire.Json.Refusal

/-!
# What is written is read back

Whatever has a lawful form is read back from the JSON document that is written for it, and from
every other document that spells it: members in another order or of unknown name change nothing, and
a field that is left out has its default. Where a document holds a number in the place of a seat,
it has to be that of a seat.
-/

namespace TileMatch

open Wire

/-- A number that names no seat on the wire. -/
def Slot.Misnumbered : Json → Prop
  | .integer number => number < 0 ∨ 3 < number
  | .decimal _ => True
  | _ => False

theorem Slot.read_eq_none {place : Json} (misnumbered : Misnumbered place) (room : Nat) :
    Slot.schema.read Json.source room place = none := by
  cases place with
  | integer number =>
      rw [Slot.schema, Json.read_integer, if_neg]
      rcases misnumbered with below | above
      · intro fits
        have nonneg : 0 ≤ number := (Width.contains_iff.mp (Bool.and_eq_true_iff.mp fits).1).1
        omega
      · intro fits
        have bounded : number ≤ 3 := of_decide_eq_true (Bool.and_eq_true_iff.mp fits).2
        omega
  | decimal => rfl
  | null | bool | text | array | object => exact misnumbered.elim

namespace Wire.Form

variable {α : Type} [Form α]

/-- The element that the document of a JSON text stands for. -/
def ofDocument? (document : Json) : Option α :=
  ((schema α).readDocument Json.source document).bind ofValue?

/-- How the elements that fit their form are read from documents. -/
structure ReadsBack (fits : α → Prop) : Prop where
  /-- A text is read by its document, so that it is enough to speak of documents. -/
  ofText : ∀ text, (ofJsonText? text : Option α) = (Json.ofText? text).bind ofDocument?
  /-- What is written for an element is read back. -/
  written : ∀ element, fits element → ofDocument? (toJson element) = some element
  /-- It is one of the documents that spell the element, so that the others are what becomes of it
  when members are left out, added or moved. -/
  spells_toJson : ∀ element, fits element →
    (schema α).Spells (toValue element) (toJson element) (toValue element)
  /-- A document that spells an element is read as the result: the element with the defaults of the
  fields that are left out, and the element itself when none is. -/
  spelled : ∀ (element result : α) (document : Json),
    (schema α).Spells (toValue element) document (toValue result) →
    ofDocument? document = some result
  /-- Whichever fields are left out, there is such a result. -/
  result : ∀ (element : α) (document : Json) (value : Value),
    (schema α).Spells (toValue element) document value →
    ∃ result, fits result ∧ toValue result = value
  /-- A number in the place of a seat that names no seat makes the whole document unreadable. -/
  seats : ∀ document place : Json, (schema α).Holds document Slot.schema place →
    Slot.Misnumbered place → (ofDocument? document : Option α) = none

theorem ReadsBack.of_lawful {fits : α → Prop}
    (lawful : Lawful Binary32.isFinite (schema α) fits toValue ofValue?) : ReadsBack fits where
  ofText text := by
    rw [ofJsonText?, Schema.readJsonText?, Option.bind_assoc]
    rfl
  written element fit := by
    have read := ((schema α).spells_toJson lawful.proper (lawful.admits fit)).read lawful.proper
    rw [ofDocument?, toJson, Schema.readDocument, read, Option.bind_some,
      lawful.ofValue?_toValue]
  spells_toJson element fit := (schema α).spells_toJson lawful.proper (lawful.admits fit)
  spelled element result document spells := by
    rw [ofDocument?, Schema.readDocument, spells.read lawful.proper, Option.bind_some,
      lawful.ofValue?_toValue]
  result element document value spells :=
    lawful.covers (Schema.read_admits Json.isFinite_of_single? _ lawful.proper
      (spells.read lawful.proper 0))
  seats document place holds misnumbered := by
    rw [ofDocument?, Schema.readDocument, holds.read_eq_none (Slot.read_eq_none misnumbered),
      Option.bind_none]

end Wire.Form

end TileMatch
