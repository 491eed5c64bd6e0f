import TileMatch.Proofs.Wire.Schema

/-!
# Lawful forms

A schema is lawful for a type when its values are just those of the elements that fit, and an
element is found again from its value. Lists and what may be absent take this over from what they
hold, and a choice among names has it when the names are distinct.
-/

namespace TileMatch.Wire

/-! ## Proper schemas -/

namespace Schema

variable {usable : Binary32 → Bool}

@[simp]
theorem proper_bool : bool.Proper usable := trivial

@[simp]
theorem proper_text : text.Proper usable := trivial

@[simp]
theorem proper_single : single.Proper usable := trivial

@[simp]
theorem proper_ofWidth (width : Width) : (ofWidth width).Proper usable := trivial

@[simp]
theorem proper_list {item : Schema} : (list item).Proper usable ↔ item.Proper usable := Iff.rfl

@[simp]
theorem proper_pair {first second : Schema} :
    (pair first second).Proper usable ↔ first.Proper usable ∧ second.Proper usable := Iff.rfl

@[simp]
theorem proper_record {name : String} {fields : Fields} :
    (record name fields).Proper usable ↔ fields.Proper usable := Iff.rfl

@[simp]
theorem proper_choice {variants : Variants} :
    (choice variants).Proper usable ↔ variants.Proper usable := Iff.rfl

end Schema

namespace Fields

variable {usable : Binary32 → Bool} {name : String} {schema : Schema} {default : Value}
  {rest : Fields}

@[simp]
theorem names_nil : nil.names = [] := rfl

@[simp]
theorem names_required : (required name schema rest).names = name :: rest.names := rfl

@[simp]
theorem names_optional : (optional name schema rest).names = name :: rest.names := rfl

@[simp]
theorem names_defaulted : (defaulted name schema default rest).names = name :: rest.names := rfl

@[simp]
theorem proper_nil : nil.Proper usable := trivial

@[simp]
theorem proper_required : (required name schema rest).Proper usable ↔
    name ∉ rest.names ∧ schema.Proper usable ∧ rest.Proper usable := by
  simp [required, Fields.Proper, Omission.fill?]

@[simp]
theorem proper_optional : (optional name schema rest).Proper usable ↔
    name ∉ rest.names ∧ (Schema.optional schema).Proper usable ∧ rest.Proper usable := by
  simp [optional, Fields.Proper, Omission.fill?, Schema.Admits]

@[simp]
theorem proper_defaulted : (defaulted name schema default rest).Proper usable ↔
    name ∉ rest.names ∧ schema.Admits usable default ∧ schema.Proper usable ∧
      rest.Proper usable := by
  simp [defaulted, Fields.Proper, Omission.fill?]

end Fields

theorem Width.contains_iff {width : Width} {number : Int} :
    width.contains number = true ↔ width.least ≤ number ∧ number ≤ width.greatest := by
  simp [contains]

/-! ## Lawful schemas -/

/-- A schema is that of the elements that fit, which are written by one function and read by
another, given which numbers of single precision may occur. -/
structure Lawful {α : Type} (usable : Binary32 → Bool) (schema : Schema) (fits : α → Prop)
    (toValue : α → Value) (ofValue? : Value → Option α) : Prop where
  proper : schema.Proper usable
  /-- The values of the elements that fit are values of the schema. -/
  admits : ∀ {element}, fits element → schema.Admits usable (toValue element)
  /-- The schema has no other values. -/
  covers : ∀ {value}, schema.Admits usable value → ∃ element, fits element ∧ toValue element = value
  ofValue?_toValue : ∀ element, ofValue? (toValue element) = some element

namespace Lawful

variable {α : Type} {usable : Binary32 → Bool} {schema : Schema} {fits : α → Prop}
  {toValue : α → Value} {ofValue? : Value → Option α}

/-- What is read is an element that fits. -/
theorem fits_of_read {Document : Type} {source : Source Document}
    (lawful : Lawful usable schema fits toValue ofValue?)
    (singles : ∀ document number, source.single? document = some number → usable number = true)
    {room : Nat} {document : Document} {value : Value} {element : α}
    (read : schema.read source room document = some value) (found : ofValue? value = some element) :
    fits element := by
  obtain ⟨other, fit, rfl⟩ := lawful.covers (schema.read_admits singles lawful.proper read)
  rw [lawful.ofValue?_toValue] at found
  exact Option.some.inj found ▸ fit

theorem integer (width : Width) :
    Lawful usable (.ofWidth width) (width.contains · = true) .integer Value.toInt? where
  proper := trivial
  admits fits := ⟨_, rfl, fits, (Width.contains_iff.mp fits).2⟩
  covers := by
    rintro _ ⟨number, rfl, fits, _⟩
    exact ⟨number, fits, rfl⟩
  ofValue?_toValue _ := rfl

theorem natural {width : Width} (unsigned : width.least = 0) :
    Lawful usable (.ofWidth width) (fun number : Nat => width.contains number = true) Value.ofNat
      Value.toNat? where
  proper := trivial
  admits fits := (integer width).admits fits
  covers := by
    rintro _ ⟨number, rfl, fits, _⟩
    have nonneg : 0 ≤ number := unsigned ▸ (Width.contains_iff.mp fits).1
    obtain ⟨natural, rfl⟩ := Int.eq_ofNat_of_zero_le nonneg
    exact ⟨natural, fits, rfl⟩
  ofValue?_toValue number := by simp [Value.ofNat, Value.toNat?]

theorem single : Lawful usable .single (usable · = true) .single Value.toSingle? where
  proper := trivial
  admits fit := ⟨_, rfl, fit⟩
  covers := by
    rintro _ ⟨number, rfl, fit⟩
    exact ⟨number, fit, rfl⟩
  ofValue?_toValue _ := rfl

theorem list (lawful : Lawful usable schema fits toValue ofValue?) :
    Lawful usable (.list schema) (fun elements : List α => ∀ element ∈ elements, fits element)
      (fun elements => .list (elements.map toValue)) (Value.toList? ofValue?) where
  proper := lawful.proper
  admits {elements} fitAll := by
    refine ⟨elements.map toValue, rfl, fun entry mem => ?_⟩
    obtain ⟨element, elementMem, rfl⟩ := List.mem_map.mp mem
    exact lawful.admits (fitAll element elementMem)
  covers := by
    rintro _ ⟨items, rfl, each⟩
    induction items with
    | nil => exact ⟨[], List.forall_mem_nil _, rfl⟩
    | cons item rest hypothesis =>
        obtain ⟨element, fit, rfl⟩ := lawful.covers (each item List.mem_cons_self)
        obtain ⟨elements, fitAll, same⟩ :=
          hypothesis fun entry mem => each entry (List.mem_cons_of_mem _ mem)
        cases same
        exact ⟨element :: elements, List.forall_mem_cons.mpr ⟨fit, fitAll⟩, rfl⟩
  ofValue?_toValue elements := by
    refine mapM_eq_some_iff.mpr ?_
    rw [List.map_map]
    exact List.map_congr_left fun element _ => lawful.ofValue?_toValue element

theorem option (lawful : Lawful usable schema fits toValue ofValue?)
    (given : schema.isOptional = false) :
    Lawful usable (.optional schema) (fun element? : Option α => ∀ element ∈ element?, fits element)
      (Value.ofOption toValue) (Value.toOption? ofValue?) where
  proper := ⟨given, lawful.proper⟩
  admits {element?} fit := by
    cases element? with
    | none => exact .inl rfl
    | some element => exact .inr ⟨toValue element, rfl, lawful.admits (fit element rfl)⟩
  covers := by
    rintro _ (rfl | ⟨_, rfl, admits⟩)
    · exact ⟨none, by simp, rfl⟩
    · obtain ⟨element, fit, rfl⟩ := lawful.covers admits
      exact ⟨some element, by simpa, rfl⟩
  ofValue?_toValue element? := by
    cases element? with
    | none => rfl
    | some element =>
        rw [Value.ofOption, Value.toOption?, lawful.ofValue?_toValue, Option.map_some]

end Lawful

/-! ## Names -/

namespace Variants

variable {usable : Binary32 → Bool} {names : List String}

theorem names_ofNames (names : List String) : (ofNames names).names = names := by
  induction names with
  | nil => rfl
  | cons name rest hypothesis => rw [ofNames, Variants.names, hypothesis]

theorem proper_ofNames (distinct : names.Nodup) : (ofNames names).Proper usable := by
  induction names with
  | nil => trivial
  | cons name rest hypothesis =>
      obtain ⟨new, distinctRest⟩ := List.nodup_cons.mp distinct
      exact ⟨(names_ofNames rest).symm ▸ new, hypothesis distinctRest⟩

theorem admits_ofNames {value : Value} :
    (ofNames names).Admits usable value ↔ ∃ name ∈ names, .plain name = value := by
  induction names with
  | nil => simp [ofNames, Variants.Admits]
  | cons name rest hypothesis => simp [ofNames, Variants.Admits, hypothesis, eq_comm]

end Variants

section Named

variable {α : Type} {usable : Binary32 → Bool} {all : List α} {name : α → String}

theorem Value.toNamed?_plain (distinct : (all.map name).Nodup) {element : α}
    (mem : element ∈ all) : toNamed? all name (.plain (name element)) = some element := by
  rw [toNamed?]
  induction all with
  | nil => cases mem
  | cons first rest hypothesis =>
      obtain ⟨new, distinctRest⟩ := List.nodup_cons.mp distinct
      rcases List.mem_cons.mp mem with rfl | later
      · rw [List.find?_cons_of_pos (by simp)]
      · have different : name first ≠ name element := fun same =>
          new (same ▸ List.mem_map_of_mem later)
        rw [List.find?_cons_of_neg (by simpa), hypothesis distinctRest later]

/-- A choice among the distinct names of finitely many elements. -/
theorem Lawful.ofNames (distinct : (all.map name).Nodup) (complete : ∀ element, element ∈ all) :
    Lawful usable (.ofNames (all.map name)) (fun _ => True) (fun element => .plain (name element))
      (Value.toNamed? all name) where
  proper := Variants.proper_ofNames distinct
  admits {element} _ :=
    Variants.admits_ofNames.mpr ⟨name element, List.mem_map_of_mem (complete element), rfl⟩
  covers admitted := by
    obtain ⟨wanted, mem, rfl⟩ := Variants.admits_ofNames.mp admitted
    obtain ⟨element, _, rfl⟩ := List.mem_map.mp mem
    exact ⟨element, trivial, rfl⟩
  ofValue?_toValue element := Value.toNamed?_plain distinct (complete element)

end Named

end TileMatch.Wire
