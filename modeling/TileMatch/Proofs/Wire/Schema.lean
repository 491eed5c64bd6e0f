import TileMatch.Wire.Schema

/-!
# The values that a schema admits

`Schema.Admits` says which values a type has. A reader gives no others: what it reads from a
document is admitted (`Schema.read_admits`), provided that the schema is proper. In a proper schema
names are distinct, so that a field or an alternative is found by its name, the value that a field
has when it is left out is admitted too, and nothing can be absent in two ways.
-/

namespace TileMatch.Wire

theorem mapM_eq_some_iff {α β : Type} {step : α → Option β} {list : List α} {values : List β} :
    list.mapM step = some values ↔ list.map step = values.map some := by
  induction list generalizing values with
  | nil => cases values <;> simp
  | cons entry rest hypothesis =>
      rw [List.mapM_cons, List.map_cons]
      cases values with
      | nil => simp [Option.bind_eq_some_iff]
      | cons value others => simp [Option.bind_eq_some_iff, hypothesis]

variable {Document : Type} {source : Source Document} {usable : Binary32 → Bool}

/-! ## Fields and alternatives by name -/

/-- What an alternative holds beside its name. -/
inductive Alternative where
  | plain
  | wrapped (schema : Schema)
  | tagged (fields : Fields)

namespace Fields

def find? : Fields → String → Option Schema
  | nil, _ => none
  | cons name schema _ rest, wanted => if name = wanted then some schema else rest.find? wanted

end Fields

namespace Variants

def names : Variants → List String
  | nil => []
  | plain name rest => name :: rest.names
  | wrapped name _ rest => name :: rest.names
  | tagged name _ rest => name :: rest.names

def find? : Variants → String → Option Alternative
  | nil, _ => none
  | plain name rest, wanted => if name = wanted then some .plain else rest.find? wanted
  | wrapped name schema rest, wanted =>
    if name = wanted then some (.wrapped schema) else rest.find? wanted
  | tagged name fields rest, wanted =>
    if name = wanted then some (.tagged fields) else rest.find? wanted

theorem mem_names_of_find? {name : String} {alternative : Alternative} :
    ∀ {variants : Variants}, variants.find? name = some alternative → name ∈ variants.names
  | .nil, found => by cases found
  | .plain _ _, found | .wrapped _ _ _, found | .tagged _ _ _, found => by
    rw [find?] at found
    split at found
    case isTrue same => exact same ▸ List.mem_cons_self
    case isFalse => exact List.mem_cons_of_mem _ (mem_names_of_find? found)

end Variants

def Alternative.read (source : Source Document) (name : String) (room : Nat)
    (payload : Payload Document) : Alternative → Option Value
  | plain => if payload.isPlain then some (.plain name) else none
  | wrapped schema =>
    (payload.wrapped? schema.isRecord).bind fun inner =>
      (schema.read source (room - 1) inner).map (.wrapped name)
  | tagged fields =>
    (payload.tagged? fields.names).bind fun entries =>
      if entries.passable source fields.names (room - 2) then
        (fields.read source (room - 2) entries).map (.tagged name)
      else none

theorem Variants.read_eq (room : Nat) (wanted : String) (payload : Payload Document) :
    ∀ variants : Variants, variants.read source room wanted payload =
      (variants.find? wanted).bind fun alternative => alternative.read source wanted room payload
  | .nil => rfl
  | .plain name rest | .wrapped name _ rest | .tagged name _ rest => by
    rw [Variants.read, find?]
    split
    case isTrue same =>
      subst same
      rfl
    case isFalse => exact read_eq room wanted payload rest

/-! ## Values -/

mutual

/-- Whether a value is one of the type that a schema describes, given which numbers of single
precision may occur in it. -/
def Schema.Admits (usable : Binary32 → Bool) : Schema → Value → Prop
  | .bool, value => ∃ content, value = .bool content
  | .text, value => ∃ content, value = .text content
  | .single, value => ∃ number, value = .single number ∧ usable number = true
  | .integer width bound, value =>
    ∃ number, value = .integer number ∧ width.contains number = true ∧ number ≤ bound
  | .list item, value => ∃ items, value = .list items ∧ ∀ entry ∈ items, item.Admits usable entry
  | .pair first second, value =>
    ∃ left right, value = .pair left right ∧ first.Admits usable left ∧ second.Admits usable right
  | .optional item, value =>
    value = .absent ∨ ∃ inner, value = .present inner ∧ item.Admits usable inner
  | .record name fields, value =>
    ∃ values, value = .record name values ∧ fields.Admits usable values
  | .choice variants, value => variants.Admits usable value

def Fields.Admits (usable : Binary32 → Bool) : Fields → List (String × Value) → Prop
  | .nil, values => values = []
  | .cons name schema _ rest, values =>
    ∃ value others, values = (name, value) :: others ∧ schema.Admits usable value ∧
      rest.Admits usable others

def Variants.Admits (usable : Binary32 → Bool) : Variants → Value → Prop
  | .nil, _ => False
  | .plain name rest, value => value = .plain name ∨ rest.Admits usable value
  | .wrapped name schema rest, value =>
    (∃ inner, value = .wrapped name inner ∧ schema.Admits usable inner) ∨ rest.Admits usable value
  | .tagged name fields rest, value =>
    (∃ values, value = .tagged name values ∧ fields.Admits usable values) ∨ rest.Admits usable value

end

namespace Variants

variable {name : String}

theorem admits_plain : ∀ {variants : Variants}, variants.find? name = some .plain →
    variants.Admits usable (.plain name)
  | .nil, chosen => by cases chosen
  | .plain _ _, chosen => by
    rw [find?] at chosen
    split at chosen
    case isTrue same => exact .inl (same ▸ rfl)
    case isFalse => exact .inr (admits_plain chosen)
  | .wrapped _ _ _, chosen | .tagged _ _ _, chosen => by
    rw [find?] at chosen
    split at chosen
    case isTrue => cases chosen
    case isFalse => exact .inr (admits_plain chosen)

theorem admits_tagged {fields : Fields} {values : List (String × Value)} :
    ∀ {variants : Variants}, variants.find? name = some (.tagged fields) →
      fields.Admits usable values → variants.Admits usable (.tagged name values)
  | .nil, chosen, _ => by cases chosen
  | .tagged _ _ _, chosen, admits => by
    rw [find?] at chosen
    split at chosen
    case isTrue same =>
      cases chosen
      exact .inl ⟨values, same ▸ rfl, admits⟩
    case isFalse => exact .inr (admits_tagged chosen admits)
  | .plain _ _, chosen, admits | .wrapped _ _ _, chosen, admits => by
    rw [find?] at chosen
    split at chosen
    case isTrue => cases chosen
    case isFalse => exact .inr (admits_tagged chosen admits)

end Variants

/-- Whether values may be absent. -/
def Schema.isOptional : Schema → Bool
  | .optional _ => true
  | _ => false

mutual

/-- Whether nothing in a schema is ambiguous and its defaults are values of their fields. -/
def Schema.Proper (usable : Binary32 → Bool) : Schema → Prop
  | .list item => item.Proper usable
  | .pair first second => first.Proper usable ∧ second.Proper usable
  | .optional item => item.isOptional = false ∧ item.Proper usable
  | .record _ fields => fields.Proper usable
  | .choice variants => variants.Proper usable
  | _ => True

def Fields.Proper (usable : Binary32 → Bool) : Fields → Prop
  | .nil => True
  | .cons name schema omission rest =>
    name ∉ rest.names ∧
      (∀ byPosition default, omission.fill? byPosition = some default →
        schema.Admits usable default) ∧
      schema.Proper usable ∧ rest.Proper usable

def Variants.Proper (usable : Binary32 → Bool) : Variants → Prop
  | .nil => True
  | .plain name rest => name ∉ rest.names ∧ rest.Proper usable
  | .wrapped name schema rest => name ∉ rest.names ∧ schema.Proper usable ∧ rest.Proper usable
  | .tagged name fields rest => name ∉ rest.names ∧ fields.Proper usable ∧ rest.Proper usable

end

def Alternative.Proper (usable : Binary32 → Bool) : Alternative → Prop
  | plain => True
  | wrapped schema => schema.Proper usable
  | tagged fields => fields.Proper usable

theorem Variants.Proper.of_find? {name : String} {alternative : Alternative} :
    ∀ {variants : Variants}, variants.Proper usable → variants.find? name = some alternative →
      alternative.Proper usable
  | .nil, _, found => by cases found
  | .plain _ _, proper, found => by
    rw [find?] at found
    split at found
    · cases found
      trivial
    · exact of_find? proper.2 found
  | .wrapped _ _ _, proper, found | .tagged _ _ _, proper, found => by
    rw [find?] at found
    split at found
    · cases found
      exact proper.2.1
    · exact of_find? proper.2.2 found

/-! ## What is read is admitted -/

mutual

theorem Schema.read_admits
    (singles : ∀ document number, source.single? document = some number → usable number = true) :
    ∀ (schema : Schema) {room : Nat} {document : Document} {value : Value},
      schema.Proper usable → schema.read source room document = some value →
      schema.Admits usable value
  | .bool, _, _, _, _, read => by
    obtain ⟨content, _, rfl⟩ := Option.map_eq_some_iff.mp read
    exact ⟨content, rfl⟩
  | .text, _, _, _, _, read => by
    obtain ⟨content, _, rfl⟩ := Option.map_eq_some_iff.mp read
    exact ⟨content, rfl⟩
  | .single, _, _, _, _, read => by
    obtain ⟨number, found, rfl⟩ := Option.map_eq_some_iff.mp read
    exact ⟨number, rfl, singles _ _ found⟩
  | .integer width bound, _, _, _, _, read => by
    obtain ⟨number, _, checked⟩ := Option.bind_eq_some_iff.mp read
    split at checked
    case isTrue fits =>
      cases checked
      exact ⟨number, rfl, by simpa using fits⟩
    case isFalse => cases checked
  | .list item, _, _, _, proper, read => by
    obtain ⟨documents, _, all⟩ := Option.bind_eq_some_iff.mp read
    obtain ⟨items, each, rfl⟩ := Option.map_eq_some_iff.mp all
    refine ⟨items, rfl, fun entry member => ?_⟩
    have taken : some entry ∈ documents.map (item.read source (_ - 2)) :=
      mapM_eq_some_iff.mp each ▸ List.mem_map_of_mem member
    obtain ⟨document, _, itemRead⟩ := List.mem_map.mp taken
    exact item.read_admits singles proper itemRead
  | .pair first second, _, _, _, proper, read => by
    obtain ⟨documents, _, both⟩ := Option.bind_eq_some_iff.mp read
    obtain ⟨left, firstRead, other⟩ := Option.bind_eq_some_iff.mp both
    obtain ⟨right, secondRead, rfl⟩ := Option.map_eq_some_iff.mp other
    exact ⟨left, right, rfl, first.read_admits singles proper.1 firstRead,
      second.read_admits singles proper.2 secondRead⟩
  | .optional item, _, _, _, proper, read => by
    obtain ⟨inner?, _, given⟩ := Option.bind_eq_some_iff.mp read
    cases inner? with
    | none =>
        cases given
        exact .inl rfl
    | some document =>
        obtain ⟨inner, innerRead, rfl⟩ := Option.map_eq_some_iff.mp given
        exact .inr ⟨inner, rfl, item.read_admits singles proper.2 innerRead⟩
  | .record name fields, _, _, _, proper, read => by
    obtain ⟨entries, _, checked⟩ := Option.bind_eq_some_iff.mp read
    split at checked
    case isTrue =>
      obtain ⟨values, fieldsRead, rfl⟩ := Option.map_eq_some_iff.mp checked
      exact ⟨values, rfl, fields.read_admits singles proper fieldsRead⟩
    case isFalse => cases checked
  | .choice variants, _, _, _, proper, read => by
    obtain ⟨alternative, _, variantRead⟩ := Option.bind_eq_some_iff.mp read
    exact variants.read_admits singles proper variantRead

theorem Fields.read_admits
    (singles : ∀ document number, source.single? document = some number → usable number = true) :
    ∀ (fields : Fields) {room : Nat} {entries : Entries Document} {values : List (String × Value)},
      fields.Proper usable → fields.read source room entries = some values →
      fields.Admits usable values
  | .nil, _, _, _, _, read => (Option.some.inj read).symm
  | .cons name schema omission rest, _, entries, _, proper, read => by
    obtain ⟨value, given, others⟩ := Option.bind_eq_some_iff.mp read
    obtain ⟨values, restRead, rfl⟩ := Option.map_eq_some_iff.mp others
    refine ⟨value, values, rfl, ?_, rest.read_admits singles proper.2.2.2 restRead⟩
    -- The field is left out, given once, or given more than once.
    split at given
    · exact proper.2.1 _ _ given
    · exact schema.read_admits singles proper.2.2.1 given
    · cases given

theorem Variants.read_admits
    (singles : ∀ document number, source.single? document = some number → usable number = true) :
    ∀ (variants : Variants) {room : Nat} {wanted : String} {payload : Payload Document}
      {value : Value}, variants.Proper usable →
      variants.read source room wanted payload = some value → variants.Admits usable value
  | .nil, _, _, _, _, _, read => by cases read
  | .plain name rest, _, _, _, _, proper, read => by
    rw [Variants.read] at read
    split at read
    case isTrue =>
      split at read
      · exact .inl (Option.some.inj read).symm
      · cases read
    case isFalse => exact .inr (rest.read_admits singles proper.2 read)
  | .wrapped name schema rest, _, _, _, _, proper, read => by
    rw [Variants.read] at read
    split at read
    case isTrue =>
      obtain ⟨_, _, held⟩ := Option.bind_eq_some_iff.mp read
      obtain ⟨inner, innerRead, rfl⟩ := Option.map_eq_some_iff.mp held
      exact .inl ⟨inner, rfl, schema.read_admits singles proper.2.1 innerRead⟩
    case isFalse => exact .inr (rest.read_admits singles proper.2.2 read)
  | .tagged name fields rest, _, _, _, _, proper, read => by
    rw [Variants.read] at read
    split at read
    case isTrue =>
      obtain ⟨_, _, held⟩ := Option.bind_eq_some_iff.mp read
      split at held
      · obtain ⟨values, fieldsRead, rfl⟩ := Option.map_eq_some_iff.mp held
        exact .inl ⟨values, rfl, fields.read_admits singles proper.2.1 fieldsRead⟩
      · cases held
    case isFalse => exact .inr (rest.read_admits singles proper.2.2 read)

end

end TileMatch.Wire
