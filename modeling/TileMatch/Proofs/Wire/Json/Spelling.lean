import TileMatch.Proofs.Binary32.Decimal
import TileMatch.Proofs.Wire.Schema
import TileMatch.Wire.Json.Form

/-!
# The documents that spell a value

A value has more spellings than the document that is written for it: members of objects may stand in
any order and among others of unknown name, and a field that has a value of its own when it is left
out may be left out. `Schema.Spells` says which documents spell a value, and what they are read as:
the value itself, with the fields that the document leaves out at their defaults.
-/

namespace TileMatch.Wire

/-- An object with named members. -/
def Json.ofMembers (members : List (String × Json)) : Json :=
  .object (members.map fun member => (some member.1, member.2))

mutual

/-- A document spells a value, up to fields that are left out: the result has their defaults. -/
inductive Schema.Spells : Schema → Value → Json → Value → Prop
  | bool (content : Bool) : Schema.Spells .bool (.bool content) (.bool content) (.bool content)
  | text (content : String) :
    Schema.Spells .text (.text content) (.text (some content)) (.text content)
  | single {number : Binary32} (finite : number.isFinite = true) :
    Schema.Spells .single (.single number) (.decimal number.shortest) (.single number)
  | integer {width : Width} {bound number : Int} (fits : width.contains number = true)
    (bounded : number ≤ bound) :
    Schema.Spells (.integer width bound) (.integer number) (.integer number) (.integer number)
  | list {item : Schema} {values : List Value} {documents : List Json} {results : List Value}
    (items : item.SpellsAll values documents results) :
    Schema.Spells (.list item) (.list values) (.array documents) (.list results)
  | pair {first second : Schema} {left right : Value} {leftDocument rightDocument : Json}
    {leftResult rightResult : Value} (one : first.Spells left leftDocument leftResult)
    (other : second.Spells right rightDocument rightResult) :
    Schema.Spells (.pair first second) (.pair left right) (.array [leftDocument, rightDocument])
      (.pair leftResult rightResult)
  | absent (item : Schema) : Schema.Spells (.optional item) .absent .null .absent
  | present {item : Schema} {value : Value} {document : Json} {result : Value}
    (given : document ≠ .null) (inner : item.Spells value document result) :
    Schema.Spells (.optional item) (.present value) document (.present result)
  | record (name : String) {fields : Fields} {values : List (String × Value)}
    {members : List (String × Json)} {results : List (String × Value)}
    (spelled : fields.Spells values members results) :
    Schema.Spells (.record name fields) (.record name values) (.ofMembers members)
      (.record name results)
  | choice {variants : Variants} {name : String} {alternative : Alternative} {value : Value}
    {document : Json} {result : Value} (chosen : variants.find? name = some alternative)
    (spelled : alternative.Spells name value document result) :
    Schema.Spells (.choice variants) value document result

inductive Schema.SpellsAll : Schema → List Value → List Json → List Value → Prop
  | nil (item : Schema) : Schema.SpellsAll item [] [] []
  | cons {item : Schema} {value : Value} {document : Json} {result : Value} {values : List Value}
    {documents : List Json} {results : List Value} (first : item.Spells value document result)
    (rest : item.SpellsAll values documents results) :
    Schema.SpellsAll item (value :: values) (document :: documents) (result :: results)

/-- The members of an object spell the values of fields: those that are kept stand in any order and
among members of unknown name. -/
inductive Fields.Spells :
    Fields → List (String × Value) → List (String × Json) → List (String × Value) → Prop
  | mixed {fields : Fields} {values : List (String × Value)}
    {members kept unknown : List (String × Json)} {results : List (String × Value)}
    (keeps : fields.Keeps values kept results)
    (isUnknown : ∀ member ∈ unknown, member.1 ∉ fields.names)
    (order : members.Perm (kept ++ unknown)) : Fields.Spells fields values members results

/-- Members spell the values of the fields that they keep, and the others have defaults. -/
inductive Fields.Keeps :
    Fields → List (String × Value) → List (String × Json) → List (String × Value) → Prop
  | nil : Fields.Keeps .nil [] [] []
  | kept (name : String) {schema : Schema} (omission : Omission) {rest : Fields} {value : Value}
    {document : Json} {result : Value} {values : List (String × Value)}
    {members : List (String × Json)} {results : List (String × Value)}
    (first : schema.Spells value document result) (others : rest.Keeps values members results) :
    Fields.Keeps (.cons name schema omission rest) ((name, value) :: values)
      ((name, document) :: members) ((name, result) :: results)
  | omitted (name : String) (schema : Schema) {omission : Omission} {rest : Fields} (value : Value)
    {default : Value} {values : List (String × Value)} {members : List (String × Json)}
    {results : List (String × Value)} (fills : omission.fill? false = some default)
    (others : rest.Keeps values members results) :
    Fields.Keeps (.cons name schema omission rest) ((name, value) :: values) members
      ((name, default) :: results)

/-- A document spells an alternative: it is its name, or holds under its name what it holds. -/
inductive Alternative.Spells : Alternative → String → Value → Json → Value → Prop
  | plain (name : String) :
    Alternative.Spells .plain name (.plain name) (.text (some name)) (.plain name)
  | wrapped (name : String) {schema : Schema} {value : Value} {document : Json} {result : Value}
    (inner : schema.Spells value document result) :
    Alternative.Spells (.wrapped schema) name (.wrapped name value)
      (.ofMembers [(name, document)]) (.wrapped name result)
  | tagged (name : String) {fields : Fields} {values : List (String × Value)}
    {members : List (String × Json)} {results : List (String × Value)}
    (spelled : fields.Spells values members results) :
    Alternative.Spells (.tagged fields) name (.tagged name values)
      (.ofMembers [(name, .ofMembers members)]) (.tagged name results)

end

/-! ## One level of a document -/

namespace Json

theorem entries?_ofMembers (names : List String) (members : List (String × Json)) :
    entries? names (ofMembers members) = some ⟨members, false⟩ := by
  have named : (members.map fun member => (some member.1, member.2)).mapM namedMember? =
      some members := by
    rw [mapM_eq_some_iff, List.map_map]
    rfl
  rw [ofMembers, entries?, members?, named]
  · rfl
  · simp

/-- Members of unknown name may hold anything. -/
theorem passable (names : List String) (room : Nat) (entries : Entries Json) :
    entries.passable source names room = true := by
  simp [Entries.passable, source]

variable {room : Nat} {schema item first second : Schema} {fields : Fields} {variants : Variants}
  {name : String} {document : Json} {members : List (String × Json)}

theorem read_single {number : Binary32} (finite : number.isFinite = true) :
    Schema.single.read source room (.decimal number.shortest) = some (.single number) := by
  change (finite? number.shortest).map Value.single = _
  rw [finite?, Binary32.ofDecimal_shortest finite, if_pos finite, Option.map_some]

theorem isFinite_of_single? (document : Json) (number : Binary32)
    (read : source.single? document = some number) : number.isFinite = true := by
  have checked : ∀ decimal, finite? decimal = some number → number.isFinite = true := by
    intro decimal found
    rw [finite?] at found
    split at found
    case isTrue finite => exact Option.some.inj found ▸ finite
    case isFalse => cases found
  cases document with
  | integer value => exact checked _ read
  | decimal value => exact checked _ read
  | null | bool | text | array | object => cases read

theorem read_integer (width : Width) (bound number : Int) :
    (Schema.integer width bound).read source room (.integer number) =
      if width.contains number && number ≤ bound then some (.integer number) else none := rfl

theorem read_list (documents : List Json) :
    (Schema.list item).read source room (.array documents) =
      (documents.mapM (item.read source (room - 2))).map .list := rfl

theorem read_pair (left right : Json) :
    (Schema.pair first second).read source room (.array [left, right]) =
      (first.read source (room - 2) left).bind fun value =>
        (second.read source (room - 2) right).map (.pair value) := rfl

/-- Where something may be absent, all but `null` is read as what is present. -/
theorem read_present (given : document ≠ .null) :
    (Schema.optional item).read source room document =
      (item.read source (room - 1) document).map .present := by
  have found : source.optional? item.isRecord document = some (some document) := by
    cases document <;> first | rfl | exact absurd rfl given
  rw [Schema.read, found, Option.bind_some]

theorem read_record :
    (Schema.record name fields).read source room (ofMembers members) =
      (fields.read source (room - 2) ⟨members, false⟩).map (.record name) := by
  have found : source.record? name fields.names (ofMembers members) = some ⟨members, false⟩ :=
    entries?_ofMembers fields.names members
  rw [Schema.read, found, Option.bind_some, if_pos (passable ..)]

/-- An alternative is read by what is found under its name. -/
theorem read_choice {alternative : Alternative} {payload : Payload Json}
    (chosen : variants.find? name = some alternative)
    (isVariant : source.variant? document = some (name, payload)) :
    (Schema.choice variants).read source room document =
      alternative.read source name (room - 1) payload := by
  rw [Schema.read, isVariant, Option.bind_some, Variants.read_eq, chosen, Option.bind_some]

theorem read_plain (chosen : variants.find? name = some .plain) :
    (Schema.choice variants).read source room (.text (some name)) = some (.plain name) :=
  (read_choice chosen rfl).trans rfl

theorem read_wrapped (chosen : variants.find? name = some (.wrapped schema)) :
    (Schema.choice variants).read source room (ofMembers [(name, document)]) =
      (schema.read source (room - 1 - 1) document).map (.wrapped name) :=
  (read_choice chosen rfl).trans rfl

theorem read_tagged (chosen : variants.find? name = some (.tagged fields)) :
    (Schema.choice variants).read source room (ofMembers [(name, ofMembers members)]) =
      (fields.read source (room - 1 - 2) ⟨members, false⟩).map (.tagged name) := by
  refine (read_choice chosen rfl).trans ?_
  simp only [Alternative.read]
  rw [entries?_ofMembers, Option.bind_some, if_pos (passable ..)]

end Json

namespace Fields

variable {Document : Type} {source : Source Document} {room : Nat} {entries : Entries Document}
  {name : String} {schema : Schema} {rest : Fields}

theorem read_cons_of_filter (omission : Omission) {document : Document}
    (found : entries.entries.filter (fun entry => entry.1 == name) = [(name, document)]) :
    (cons name schema omission rest).read source room entries =
      (schema.read source room document).bind fun value =>
        (rest.read source room entries).map ((name, value) :: ·) := by
  simp only [Fields.read]
  rw [found]

theorem read_cons_of_missing {omission : Omission}
    (missing : entries.entries.filter (fun entry => entry.1 == name) = []) :
    (cons name schema omission rest).read source room entries =
      (omission.fill? entries.byPosition).bind fun value =>
        (rest.read source room entries).map ((name, value) :: ·) := by
  simp only [Fields.read]
  rw [missing]

theorem Keeps.name_mem : ∀ {fields : Fields} {values results : List (String × Value)}
    {kept : List (String × Json)}, fields.Keeps values kept results →
    ∀ {member : String × Json}, member ∈ kept → member.1 ∈ fields.names
  | _, _, _, _, .nil, _, mem => by cases mem
  | _, _, _, _, .kept _ _ _ others, _, mem => by
    rcases List.mem_cons.mp mem with rfl | mem
    · exact List.mem_cons_self
    · exact List.mem_cons_of_mem _ (others.name_mem mem)
  | _, _, _, _, .omitted _ _ _ _ others, _, mem => List.mem_cons_of_mem _ (others.name_mem mem)

theorem Keeps.filter_eq_nil {fields : Fields} {values results : List (String × Value)}
    {kept : List (String × Json)} (keeps : fields.Keeps values kept results) {name : String}
    (unknown : name ∉ fields.names) : kept.filter (fun member => member.1 == name) = [] := by
  rw [List.filter_eq_nil_iff]
  intro member mem same
  exact unknown (beq_iff_eq.mp same ▸ keeps.name_mem mem)

end Fields

/-! ## Spellings are read -/

-- The recursion is on the spelling, which says what the document is for and what it leaves out.

mutual

theorem Schema.Spells.read : ∀ {schema : Schema} {value : Value} {document : Json} {result : Value},
    schema.Spells value document result → schema.Proper Binary32.isFinite →
    ∀ room, schema.read Json.source room document = some result
  | _, _, _, _, .bool _, _, _ | _, _, _, _, .text _, _, _ | _, _, _, _, .absent _, _, _ => rfl
  | _, _, _, _, .single finite, _, _ => Json.read_single finite
  | _, _, _, _, .integer fits bounded, _, _ => by
    rw [Json.read_integer, if_pos (by simp [fits, bounded])]
  | _, _, _, _, .list items, proper, room => by
    rw [Json.read_list, mapM_eq_some_iff.mpr (items.read proper (room - 2)), Option.map_some]
  | _, _, _, _, .pair one other, proper, room => by
    rw [Json.read_pair, one.read proper.1 (room - 2), Option.bind_some,
      other.read proper.2 (room - 2), Option.map_some]
  | _, _, _, _, .present given inner, proper, room => by
    rw [Json.read_present given, inner.read proper.2 (room - 1), Option.map_some]
  | _, _, _, _, .record _ spelled, proper, room => by
    rw [Json.read_record, spelled.read proper (room - 2), Option.map_some]
  | _, _, _, _, .choice chosen spelled, proper, room =>
    spelled.read (proper.of_find? chosen) chosen room

theorem Schema.SpellsAll.read : ∀ {item : Schema} {values : List Value} {documents : List Json}
    {results : List Value}, item.SpellsAll values documents results →
    item.Proper Binary32.isFinite →
    ∀ room, documents.map (item.read Json.source room) = results.map some
  | _, _, _, _, .nil _, _, _ => rfl
  | _, _, _, _, .cons first rest, proper, room => by
    rw [List.map_cons, List.map_cons, first.read proper room, rest.read proper room]

theorem Fields.Spells.read : ∀ {fields : Fields} {values : List (String × Value)}
    {members : List (String × Json)} {results : List (String × Value)},
    fields.Spells values members results → fields.Proper Binary32.isFinite →
    ∀ room, fields.read Json.source room ⟨members, false⟩ = some results
  | _, _, _, _, .mixed keeps isUnknown order, proper, room => by
    -- A field looks only at the members of its name, and none of the unknown ones has it.
    refine keeps.read proper room rfl fun name isField => ?_
    have ofField := order.filter fun member => member.1 == name
    rw [List.filter_append] at ofField
    refine ofField.trans (.of_eq ?_)
    refine (congrArg (_ ++ ·) (List.filter_eq_nil_iff.mpr ?_)).trans (List.append_nil _)
    intro member mem same
    exact isUnknown member mem (beq_iff_eq.mp same ▸ isField)

/-- At most one member has the name of a field, so that their order does not matter. -/
theorem Fields.Keeps.read : ∀ {fields : Fields} {values : List (String × Value)}
    {kept : List (String × Json)} {results : List (String × Value)},
    fields.Keeps values kept results → fields.Proper Binary32.isFinite →
    ∀ room {entries : Entries Json}, entries.byPosition = false →
    (∀ name ∈ fields.names, (entries.entries.filter fun entry => entry.1 == name).Perm
      (kept.filter fun member => member.1 == name)) →
    fields.read Json.source room entries = some results
  | _, _, _, _, .nil, _, _, _, _, _ => rfl
  | _, _, _, _, .kept name omission first others, proper, room, _, byName, agree => by
    have own := agree name List.mem_cons_self
    rw [List.filter_cons_of_pos (by simp), others.filter_eq_nil proper.1,
      List.perm_singleton] at own
    rw [Fields.read_cons_of_filter omission own, first.read proper.2.2.1 room, Option.bind_some,
      others.read proper.2.2.2 room byName, Option.map_some]
    intro other mem
    have different : name ≠ other := fun same => proper.1 (same ▸ mem)
    have others := agree other (List.mem_cons_of_mem _ mem)
    rwa [List.filter_cons_of_neg (by simpa)] at others
  | _, _, _, _, .omitted name _ _ fills others, proper, room, _, byName, agree => by
    have own := agree name List.mem_cons_self
    rw [others.filter_eq_nil proper.1, List.perm_nil] at own
    rw [Fields.read_cons_of_missing own, byName, fills, Option.bind_some,
      others.read proper.2.2.2 room byName, Option.map_some]
    exact fun other mem => agree other (List.mem_cons_of_mem _ mem)

theorem Alternative.Spells.read : ∀ {alternative : Alternative} {name : String} {value : Value}
    {document : Json} {result : Value}, alternative.Spells name value document result →
    alternative.Proper Binary32.isFinite →
    ∀ {variants : Variants}, variants.find? name = some alternative →
    ∀ room, (Schema.choice variants).read Json.source room document = some result
  | _, _, _, _, _, .plain _, _, _, chosen, _ => Json.read_plain chosen
  | _, _, _, _, _, .wrapped _ inner, proper, _, chosen, room => by
    rw [Json.read_wrapped chosen, inner.read proper, Option.map_some]
  | _, _, _, _, _, .tagged _ spelled, proper, _, chosen, room => by
    rw [Json.read_tagged chosen, spelled.read proper, Option.map_some]

end

/-! ## What is written is a spelling -/

namespace Value

theorem object_fieldsToJson (fields : List (String × Value)) :
    Json.object (fieldsToJson fields) =
      .ofMembers (fields.map fun field => (field.1, field.2.toJson)) := by
  rw [Json.ofMembers, List.map_map]
  congr 1
  induction fields with
  | nil => rfl
  | cons field rest hypothesis => rw [fieldsToJson, List.map_cons, hypothesis, Function.comp]

end Value

theorem Fields.Spells.all {fields : Fields} {values results : List (String × Value)}
    {members : List (String × Json)} (keeps : fields.Keeps values members results) :
    fields.Spells values members results :=
  .mixed keeps (List.forall_mem_nil _) (.of_eq (List.append_nil members).symm)

theorem Schema.SpellsAll.self {item : Schema} {values : List Value}
    (each : ∀ value ∈ values, item.Spells value value.toJson value) :
    item.SpellsAll values (Value.listToJson values) values := by
  induction values with
  | nil => exact .nil item
  | cons value rest hypothesis =>
      exact .cons (each value List.mem_cons_self)
        (hypothesis fun other mem => each other (List.mem_cons_of_mem _ mem))

section

variable {usable : Binary32 → Bool} {value : Value}

theorem Variants.toJson_ne_null : ∀ {variants : Variants}, variants.Admits usable value →
    value.toJson ≠ .null
  | .nil, admits => admits.elim
  | .plain _ _, .inl own => by
    rw [own, Value.toJson]
    exact Json.noConfusion
  | .wrapped _ _ _, .inl ⟨_, own, _⟩ | .tagged _ _ _, .inl ⟨_, own, _⟩ => by
    rw [own, Value.toJson]
    exact Json.noConfusion
  | .plain _ _, .inr later | .wrapped _ _ _, .inr later | .tagged _ _ _, .inr later =>
    toJson_ne_null later

/-- Only what is absent is written as `null`. -/
theorem Schema.toJson_ne_null {schema : Schema} (given : schema.isOptional = false)
    (admits : schema.Admits usable value) : value.toJson ≠ .null := by
  cases schema with
  | optional item => cases given
  | choice variants => exact Variants.toJson_ne_null admits
  | bool | text | single | integer | list | record =>
      obtain ⟨content, rfl, _⟩ := admits
      simp [Value.toJson]
  | pair first second =>
      obtain ⟨left, right, rfl, _⟩ := admits
      simp [Value.toJson]

end

mutual

/-- What is written for a value of a schema spells it. -/
theorem Schema.spells_toJson : ∀ (schema : Schema) {value : Value},
    schema.Proper Binary32.isFinite → schema.Admits Binary32.isFinite value →
    schema.Spells value value.toJson value
  | .bool, _, _, ⟨content, same⟩ => same ▸ .bool content
  | .text, _, _, ⟨content, same⟩ => same ▸ .text content
  | .single, _, _, ⟨_, same, finite⟩ => same ▸ .single finite
  | .integer _ _, _, _, ⟨_, same, fits, bounded⟩ => same ▸ .integer fits bounded
  | .list item, _, proper, ⟨_, same, each⟩ =>
    same ▸ .list (.self fun entry mem => item.spells_toJson proper (each entry mem))
  | .pair first second, _, proper, ⟨_, _, same, one, other⟩ =>
    same ▸ .pair (first.spells_toJson proper.1 one) (second.spells_toJson proper.2 other)
  | .optional item, _, _, .inl same => same ▸ .absent item
  | .optional item, _, proper, .inr ⟨inner, same, admits⟩ => by
    rw [same, Value.toJson]
    exact .present (Schema.toJson_ne_null proper.1 admits) (item.spells_toJson proper.2 admits)
  | .record name fields, _, proper, ⟨values, same, admits⟩ => by
    rw [same, Value.toJson, Value.object_fieldsToJson]
    exact .record name (.all (fields.keeps_toJson proper admits))
  | .choice variants, _, proper, admits => by
    obtain ⟨name, alternative, found, spelled⟩ := variants.spells_toJson proper admits
    exact .choice found spelled

theorem Fields.keeps_toJson : ∀ (fields : Fields) {values : List (String × Value)},
    fields.Proper Binary32.isFinite → fields.Admits Binary32.isFinite values →
    fields.Keeps values (values.map fun field => (field.1, field.2.toJson)) values
  | .nil, _, _, same => same ▸ .nil
  | .cons name schema omission rest, _, proper, ⟨_, _, same, first, others⟩ => by
    rw [same, List.map_cons]
    exact .kept name omission (schema.spells_toJson proper.2.2.1 first)
      (rest.keeps_toJson proper.2.2.2 others)

theorem Variants.spells_toJson : ∀ (variants : Variants) {value : Value},
    variants.Proper Binary32.isFinite → variants.Admits Binary32.isFinite value →
    ∃ name alternative, variants.find? name = some alternative ∧
      alternative.Spells name value value.toJson value
  | .nil, _, _, admits => admits.elim
  | .plain name rest, _, _, .inl same => by
    subst same
    exact ⟨name, .plain, if_pos rfl, .plain name⟩
  | .wrapped name schema rest, _, proper, .inl ⟨_, same, inner⟩ => by
    subst same
    exact ⟨name, .wrapped schema, if_pos rfl,
      .wrapped name (schema.spells_toJson proper.2.1 inner)⟩
  | .tagged name fields rest, _, proper, .inl ⟨_, same, admits⟩ => by
    rw [same, Value.toJson, Value.object_fieldsToJson]
    exact ⟨name, .tagged fields, if_pos rfl,
      .tagged name (.all (fields.keeps_toJson proper.2.1 admits))⟩
  | .plain name rest, _, ⟨new, proper⟩, .inr later
  | .wrapped name _ rest, _, ⟨new, _, proper⟩, .inr later
  | .tagged name _ rest, _, ⟨new, _, proper⟩, .inr later => by
    -- Names are distinct, so that this alternative does not hide the one further on.
    obtain ⟨other, alternative, found, spelled⟩ := rest.spells_toJson proper later
    refine ⟨other, alternative, (if_neg ?_).trans found, spelled⟩
    rintro rfl
    exact new (Variants.mem_names_of_find? found)

end

end TileMatch.Wire
