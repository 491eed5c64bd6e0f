import TileMatch.Proofs.Wire.Json.Spelling

/-!
# The parts of a document

A document is taken apart along its schema: it holds the items of a list, the members of an object
that have the names of fields, and what an alternative holds. When the document is read, so is every
part that it holds. Hence one part that cannot be read makes the whole document unreadable.
-/

namespace TileMatch.Wire

/-- A document that is to be read by a schema holds, at some depth, another one that is to be read
by a schema of its own. -/
inductive Schema.Holds : Schema → Json → Schema → Json → Prop
  | self (schema : Schema) (document : Json) : Schema.Holds schema document schema document
  | item {item part : Schema} {documents : List Json} {document place : Json}
    (mem : document ∈ documents) (deeper : item.Holds document part place) :
    Schema.Holds (.list item) (.array documents) part place
  | first {first part : Schema} (second : Schema) {left place : Json} (right : Json)
    (deeper : first.Holds left part place) :
    Schema.Holds (.pair first second) (.array [left, right]) part place
  | second (first : Schema) {second part : Schema} (left : Json) {right place : Json}
    (deeper : second.Holds right part place) :
    Schema.Holds (.pair first second) (.array [left, right]) part place
  | present {item part : Schema} {document place : Json} (given : document ≠ .null)
    (deeper : item.Holds document part place) :
    Schema.Holds (.optional item) document part place
  | field (name : String) {fields : Fields} {fieldName : String} {schema part : Schema}
    {members : List (String × Json)} {document place : Json}
    (found : fields.find? fieldName = some schema) (mem : (fieldName, document) ∈ members)
    (deeper : schema.Holds document part place) :
    Schema.Holds (.record name fields) (.ofMembers members) part place
  | wrapped {variants : Variants} {name : String} {schema part : Schema} {document place : Json}
    (chosen : variants.find? name = some (.wrapped schema))
    (deeper : schema.Holds document part place) :
    Schema.Holds (.choice variants) (.ofMembers [(name, document)]) part place
  | tagged {variants : Variants} {name : String} {fields : Fields} {fieldName : String}
    {schema part : Schema} {members : List (String × Json)} {document place : Json}
    (chosen : variants.find? name = some (.tagged fields))
    (found : fields.find? fieldName = some schema) (mem : (fieldName, document) ∈ members)
    (deeper : schema.Holds document part place) :
    Schema.Holds (.choice variants) (.ofMembers [(name, .ofMembers members)]) part place

theorem Fields.read_of_mem {Document : Type} {source : Source Document} {room : Nat}
    {entries : Entries Document} {name : String} {schema : Schema} {document : Document}
    (mem : (name, document) ∈ entries.entries) :
    ∀ {fields : Fields} {values : List (String × Value)}, fields.find? name = some schema →
      fields.read source room entries = some values →
      ∃ value, schema.read source room document = some value
  | .nil, _, found, _ => by cases found
  | .cons own _ omission rest, _, found, read => by
    obtain ⟨value, given, others⟩ := Option.bind_eq_some_iff.mp read
    obtain ⟨values, restRead, rfl⟩ := Option.map_eq_some_iff.mp others
    rw [find?] at found
    split at found
    case isTrue same =>
      cases found
      subst same
      have filtered : (own, document) ∈ entries.entries.filter fun entry => entry.1 == own :=
        List.mem_filter.mpr ⟨mem, beq_self_eq_true own⟩
      -- An entry that is given twice is refused, so that the one at hand is the one that is read.
      split at given
      case h_1 none => simp [none] at filtered
      case h_2 only =>
        rw [only, List.mem_singleton] at filtered
        subst filtered
        exact ⟨value, given⟩
      case h_3 => cases given
    case isFalse => exact rest.read_of_mem mem found restRead

theorem Schema.Holds.read {schema part : Schema} {document place : Json}
    (holds : schema.Holds document part place) {room : Nat} {value : Value}
    (read : schema.read Json.source room document = some value) :
    ∃ placeRoom placeValue, part.read Json.source placeRoom place = some placeValue := by
  induction holds generalizing room value with
  | self => exact ⟨room, value, read⟩
  | item mem _ hypothesis =>
      rw [Json.read_list] at read
      obtain ⟨items, all, rfl⟩ := Option.map_eq_some_iff.mp read
      have each := mapM_eq_some_iff.mp all
      obtain ⟨result, _, itemRead⟩ := List.mem_map.mp (each ▸ List.mem_map_of_mem mem)
      exact hypothesis itemRead.symm
  | first _ _ _ hypothesis =>
      rw [Json.read_pair] at read
      obtain ⟨left, one, _⟩ := Option.bind_eq_some_iff.mp read
      exact hypothesis one
  | second _ _ _ hypothesis =>
      rw [Json.read_pair] at read
      obtain ⟨left, _, both⟩ := Option.bind_eq_some_iff.mp read
      obtain ⟨right, other, rfl⟩ := Option.map_eq_some_iff.mp both
      exact hypothesis other
  | present given _ hypothesis =>
      rw [Json.read_present given] at read
      obtain ⟨inner, innerRead, rfl⟩ := Option.map_eq_some_iff.mp read
      exact hypothesis innerRead
  | field _ found mem _ hypothesis =>
      rw [Json.read_record] at read
      obtain ⟨values, fieldsRead, rfl⟩ := Option.map_eq_some_iff.mp read
      obtain ⟨inner, innerRead⟩ := Fields.read_of_mem mem found fieldsRead
      exact hypothesis innerRead
  | wrapped chosen _ hypothesis =>
      rw [Json.read_wrapped chosen] at read
      obtain ⟨inner, innerRead, rfl⟩ := Option.map_eq_some_iff.mp read
      exact hypothesis innerRead
  | tagged chosen found mem _ hypothesis =>
      rw [Json.read_tagged chosen] at read
      obtain ⟨values, fieldsRead, rfl⟩ := Option.map_eq_some_iff.mp read
      obtain ⟨inner, innerRead⟩ := Fields.read_of_mem mem found fieldsRead
      exact hypothesis innerRead

/-- A part that cannot be read makes the whole document unreadable. -/
theorem Schema.Holds.read_eq_none {schema part : Schema} {document place : Json}
    (holds : schema.Holds document part place)
    (unreadable : ∀ room, part.read Json.source room place = none) (room : Nat) :
    schema.read Json.source room document = none := by
  rw [Option.eq_none_iff_forall_ne_some]
  intro value read
  obtain ⟨placeRoom, placeValue, placeRead⟩ := holds.read read
  rw [unreadable] at placeRead
  cases placeRead

end TileMatch.Wire
