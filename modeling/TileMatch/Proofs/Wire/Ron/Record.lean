import TileMatch.Proofs.Wire.Json.Spelling
import TileMatch.Proofs.Wire.Ron.Document

/-!
# Records in documents

A document may give the fields of a record in any order and among others of unknown name, its
numbers by any numeral that stands for them. A field that has a value of its own when it is left out
is read from the one member of its name, or is that value when there is none.
-/

namespace TileMatch.Wire

namespace Ron

variable {extensions : Extensions} {name : String} {known : List String} {room : ℕ}
  {document : Ron} {members : List (String × Ron)}

/-- A document is a record of given name with members, of which those of unknown name may be passed
over where a number of levels is left. -/
structure HasMembers (extensions : Extensions) (name : String) (known : List String) (room : ℕ)
    (document : Ron) (members : List (String × Ron)) : Prop where
  isRecord : (source extensions).record? name known document = some ⟨members, false⟩
  passable : ∀ member ∈ members, member.1 ∉ known → member.2.mayBePassed room = true

/-- One member has a name. -/
def Gives (members : List (String × Ron)) (name : String) (document : Ron) : Prop :=
  members.filter (fun member => member.1 == name) = [(name, document)]

/-- No member has a name. -/
def Lacks (members : List (String × Ron)) (name : String) : Prop :=
  ∀ member ∈ members, member.1 ≠ name

/-- A document spells a text or a number. What is undefined is spelled by all that is. -/
inductive Spells : Schema → Value → Ron → Prop where
  | text (content : String) : Spells .text (.text content) (.text content)
  | integer {width : Width} (bound : ℤ) {number : ℤ} {characters : List Char}
      (reads : integerOf? width characters = some number) :
      Spells (.integer width bound) (.integer number) (.numeral characters)
  | single {number read : Binary32} {characters : List Char}
      (reads : singleOf? characters = some read)
      (same : read = number ∨ read.isNaN = true ∧ number.isNaN = true) :
      Spells .single (.single number) (.numeral characters)

theorem HasMembers.read {fields : Fields}
    (has : HasMembers extensions name fields.names (room - 2) document members) :
    (Schema.record name fields).read (source extensions) room document =
      (fields.read (source extensions) (room - 2) ⟨members, false⟩).map (.record name) := by
  have passable : Entries.passable (source extensions) fields.names (room - 2)
      ⟨members, false⟩ = true := by
    rw [Entries.passable, List.all_eq_true]
    intro member mem
    by_cases isKnown : member.1 ∈ fields.names
    · simp [isKnown]
    · simp only [Bool.or_eq_true]
      exact .inr (has.passable member mem isKnown)
  rw [Schema.read, has.isRecord, Option.bind_some, if_pos passable]

theorem Spells.read {schema : Schema} {value : Value} (spells : Spells schema value document)
    (admits : schema.Admits (fun _ => true) value) (extensions : Extensions) (room : ℕ) :
    ∃ result, schema.read (source extensions) room document = some result ∧
      (result = value ∨ ∃ number read, value = .single number ∧ result = .single read ∧
        read.isNaN = true ∧ number.isNaN = true) := by
  cases spells with
  | text content => exact ⟨.text content, rfl, .inl rfl⟩
  | integer bound reads =>
      obtain ⟨_, ⟨⟩, fits, bounded⟩ := admits
      refine ⟨_, ?_, .inl rfl⟩
      simp [Schema.read, source, reads, fits, bounded]
  | @single number read characters reads same =>
      refine ⟨.single read, congrArg (Option.map Value.single) reads, ?_⟩
      rcases same with rfl | ⟨undefined, alike⟩
      · exact .inl rfl
      · exact .inr ⟨number, read, rfl, rfl, undefined, alike⟩

end Ron

namespace Fields

variable {Item : Type} (name : Item → String) (schema : Item → Schema) (default : Item → Value)

/-- Fields that each have a value of their own when they are left out. -/
def ofDefaults : List Item → Fields
  | [] => .nil
  | item :: rest => .defaulted (name item) (schema item) (default item) (ofDefaults rest)

theorem names_ofDefaults (items : List Item) :
    (ofDefaults name schema default items).names = items.map name := by
  induction items with
  | nil => rfl
  | cons item rest hypothesis =>
      rw [ofDefaults, defaulted, names, hypothesis, List.map_cons]

/-- Every field is read from the member of its name or has its default, whatever the others are. -/
theorem read_ofDefaults {extensions : Ron.Extensions} {room : ℕ} {members : List (String × Ron)}
    {value : Item → Value} {items : List Item}
    (each : ∀ item ∈ items,
      (∃ document, Ron.Gives members (name item) document ∧
        (schema item).read (Ron.source extensions) room document = some (value item)) ∨
      Ron.Lacks members (name item) ∧ value item = default item) :
    (ofDefaults name schema default items).read (Ron.source extensions) room ⟨members, false⟩ =
      some (items.map fun item => (name item, value item)) := by
  induction items with
  | nil => rfl
  | cons item rest hypothesis =>
      have others := hypothesis fun other mem => each other (List.mem_cons_of_mem item mem)
      rw [ofDefaults, defaulted, List.map_cons]
      rcases each item List.mem_cons_self with ⟨document, gives, read⟩ | ⟨lacks, eq⟩
      · have found := @read_cons_of_filter Ron (Ron.source extensions) room ⟨members, false⟩
          (name item) (schema item) (ofDefaults name schema default rest)
          (.value (default item)) document gives
        rw [found, read, Option.bind_some, others, Option.map_some]
      · have missing : members.filter (fun member => member.1 == name item) = [] := by
          rw [List.filter_eq_nil_iff]
          exact fun member mem same => lacks member mem (beq_iff_eq.mp same)
        have filled := @read_cons_of_missing Ron (Ron.source extensions) room ⟨members, false⟩
          (name item) (schema item) (ofDefaults name schema default rest)
          (.value (default item)) missing
        rw [filled, others, eq]
        rfl

end Fields

namespace Ron

variable {extensions : Extensions} {name : String} {known : List String}

/-! ## Records that are written -/

theorem ofEntries?_words (members : List (String × Ron)) :
    ofEntries? (members.map fun member => (.word member.1, member.2)) = some ⟨members, false⟩ := by
  have named : (members.map fun member => (Ron.word member.1, member.2)).mapM
      (fun entry : Ron × Ron => entry.1.fieldName?.map fun name => (name, entry.2)) =
        some members := by
    rw [mapM_eq_some_iff, List.map_map]
    rfl
  rw [ofEntries?, named, Option.map_some]

theorem record?_ofMembers (members : List (String × Ron)) :
    (source .none).record? name known (ofMembers members) = some ⟨members, false⟩ := by
  cases members with
  | nil => rfl
  | cons member members => exact ofEntries?_words (member :: members)

theorem AreWritten.append {first second : List (String × Value)}
    {members others : List (String × Ron)} (more : AreWritten second others) :
    AreWritten first members → AreWritten (first ++ second) (members ++ others)
  | .nil => more
  | .cons isName head tail => .cons isName head (more.append tail)

theorem IsFieldName.of_check {name : String}
    (check : (name.toList.head?.any Text.isNameStart && name.toList.all Text.isNamePart &&
      !reservedNames.contains name) = true) : IsFieldName name := by
  simp only [Bool.and_eq_true, Bool.not_eq_true'] at check
  obtain ⟨⟨start, parts⟩, notReserved⟩ := check
  refine ⟨⟨?_, List.all_eq_true.mp parts⟩, ?_⟩
  · cases written : name.toList with
    | nil =>
        rw [written] at start
        contradiction
    | cons c rest =>
        rw [written] at start
        exact ⟨c, rest, rfl, start⟩
  · intro mem
    rw [List.contains_iff_mem.mpr mem] at notReserved
    contradiction

/-- Fields of no known name are written so that they may be passed over. -/
def AreStrange (known : List String) (room : ℕ) (fields : List (String × Value)) : Prop :=
  ∃ members, AreWritten fields members ∧
    ∀ member ∈ members, member.1 ∉ known ∧ member.2.mayBePassed room = true

section

variable {Item : Type} {nameOf : Item → String} {items : List Item}
  {item : Item} {documentOf : Item → Ron} {others : List (String × Ron)}

theorem AreWritten.of_items {valueOf : Item → Value} (isName : ∀ item, IsFieldName (nameOf item))
    (written : ∀ item ∈ items, IsWritten (valueOf item) (documentOf item)) :
    AreWritten (items.map fun item => (nameOf item, valueOf item))
      (items.map fun item => (nameOf item, documentOf item)) := by
  induction items with
  | nil => exact .nil
  | cons item items hypothesis =>
      exact .cons (isName item) (written item List.mem_cons_self)
        (hypothesis fun other mem => written other (List.mem_cons_of_mem item mem))

theorem gives_of_mem [DecidableEq Item] (injective : Function.Injective nameOf)
    (nodup : items.Nodup) (mem : item ∈ items)
    (strange : ∀ member ∈ others, member.1 ≠ nameOf item) :
    Gives (items.map (fun item => (nameOf item, documentOf item)) ++ others) (nameOf item)
      (documentOf item) := by
  have fromOthers : others.filter (fun member => member.1 == nameOf item) = [] := by
    rw [List.filter_eq_nil_iff]
    exact fun member mem same => strange member mem (beq_iff_eq.mp same)
  have same : items.filter ((fun member : String × Ron => member.1 == nameOf item) ∘
      fun item => (nameOf item, documentOf item)) = [item] := by
    have condition : ((fun member : String × Ron => member.1 == nameOf item) ∘
        fun item => (nameOf item, documentOf item)) = (· == item) := by
      funext other
      rw [Function.comp, Bool.eq_iff_iff, beq_iff_eq, beq_iff_eq]
      exact injective.eq_iff
    rw [condition, List.filter_beq, List.count_eq_one_of_mem nodup mem]
    rfl
  rw [Gives, List.filter_append, List.filter_map, fromOthers, same]
  rfl

theorem lacks_of_not_mem (injective : Function.Injective nameOf) (notMem : item ∉ items)
    (strange : ∀ member ∈ others, member.1 ≠ nameOf item) :
    Lacks (items.map (fun item => (nameOf item, documentOf item)) ++ others) (nameOf item) := by
  intro member mem
  rcases List.mem_append.mp mem with mem | mem
  · obtain ⟨other, isItem, rfl⟩ := List.mem_map.mp mem
    intro same
    exact notMem (injective same ▸ isItem)
  · exact strange member mem

theorem hasMembers_ofMembers {room : ℕ} (isKnown : ∀ item ∈ items, nameOf item ∈ known)
    (passable : ∀ member ∈ others, member.2.mayBePassed room = true) :
    HasMembers .none name known room
      (ofMembers (items.map (fun item => (nameOf item, documentOf item)) ++ others))
      (items.map (fun item => (nameOf item, documentOf item)) ++ others) := by
  refine ⟨record?_ofMembers _, fun member mem unknown => ?_⟩
  rcases List.mem_append.mp mem with mem | mem
  · obtain ⟨item, isItem, rfl⟩ := List.mem_map.mp mem
    exact absurd (isKnown item isItem) unknown
  · exact passable member mem

end

end Ron

end TileMatch.Wire
