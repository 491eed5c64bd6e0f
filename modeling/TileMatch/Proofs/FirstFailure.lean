/-!
# The first failure

A list that is worked through step by step fails with the failure of the first step that fails. To
say which one that is, `failure?` turns a result into the failure it holds: what is reported of a
list is then found with `List.findSome?`, and a search that knows the places of the entries finds
the first place (`findSome?_zipIdx_eq_some_iff`).
-/

namespace TileMatch

universe u v w

variable {ε : Type u} {α : Type v} {β : Type w}

/-- The failure that a result holds, if it is one. -/
def failure? : Except ε α → Option ε
  | .ok _ => none
  | .error error => some error

@[simp]
theorem failure?_ok (value : α) : failure? (.ok value : Except ε α) = none := rfl

@[simp]
theorem failure?_error (error : ε) : failure? (.error error : Except ε α) = some error := rfl

theorem failure?_eq_some_iff {result : Except ε α} {error : ε} :
    failure? result = some error ↔ result = .error error := by
  cases result <;> simp [failure?]

theorem failure?_eq_none_iff {result : Except ε α} :
    failure? result = none ↔ ∃ value, result = .ok value := by
  cases result <;> simp [failure?]

theorem failure?_isSome_iff {result : Except ε α} :
    (failure? result).isSome = true ↔ ∃ error, result = .error error := by
  cases result <;> simp [failure?]

@[simp]
theorem failure?_map (change : α → β) (result : Except ε α) :
    failure? (result.map change) = failure? result := by
  cases result <;> rfl

/-- A step that succeeds on every result of the one before adds no failure. -/
theorem failure?_bind {α β : Type v} {result : Except ε α} {next : α → Except ε β}
    (succeeds : ∀ value, result = .ok value → ∃ later, next value = .ok later) :
    failure? (result >>= next) = failure? result := by
  cases result with
  | error error => rfl
  | ok value => exact failure?_eq_none_iff.mpr (succeeds value rfl)

theorem failure?_mapM {β : Type v} (step : α → Except ε β) (list : List α) :
    failure? (list.mapM step) = list.findSome? fun entry => failure? (step entry) := by
  induction list with
  | nil => rfl
  | cons entry rest hypothesis =>
      rw [List.mapM_cons, List.findSome?_cons, ← hypothesis]
      cases step entry with
      | error error => rfl
      | ok value =>
          cases rest.mapM step with
          | error error => rfl
          | ok values => rfl

/-- When no step fails, the values are the results of the steps one by one. -/
theorem map_eq_of_mapM {β : Type v} {step : α → Except ε β} {list : List α} {values : List β}
    (succeeds : list.mapM step = .ok values) : list.map step = values.map .ok := by
  induction list generalizing values with
  | nil =>
      cases succeeds
      rfl
  | cons entry rest hypothesis =>
      rw [List.mapM_cons] at succeeds
      cases first : step entry with
      | error error =>
          rw [first] at succeeds
          cases succeeds
      | ok value =>
          cases later : rest.mapM step with
          | error error =>
              rw [first, later] at succeeds
              cases succeeds
          | ok others =>
              rw [first, later] at succeeds
              cases succeeds
              rw [List.map_cons, List.map_cons, first, hypothesis later]

theorem length_of_mapM {β : Type v} {step : α → Except ε β} {list : List α} {values : List β}
    (succeeds : list.mapM step = .ok values) : values.length = list.length := by
  simpa using (congrArg List.length (map_eq_of_mapM succeeds)).symm

/-- When every step can be undone, undoing them on the values gives the list again. -/
theorem map_of_mapM {β : Type v} {γ : Type w} {step : α → Except ε β} {list : List α}
    {values : List β} (view : α → γ) (undo : β → γ) (succeeds : list.mapM step = .ok values)
    (undone : ∀ entry value, step entry = .ok value → undo value = view entry) :
    values.map undo = list.map view := by
  have stepwise := map_eq_of_mapM succeeds
  clear succeeds
  induction list generalizing values with
  | nil => simpa using stepwise
  | cons entry rest hypothesis =>
      cases values with
      | nil => simp at stepwise
      | cons value others =>
          simp only [List.map_cons, List.cons.injEq] at stepwise
          rw [List.map_cons, List.map_cons, undone entry value stepwise.1, hypothesis stepwise.2]

/-! ## Searching with places -/

/-- A search that does not ask for the place of an entry can do without. -/
theorem findSome?_zipIdx {γ : Type w} (search : α → Option γ) (list : List α) :
    (list.zipIdx.findSome? fun entry => search entry.1) = list.findSome? search := by
  have listed := List.zipIdx_map_fst 0 list
  calc list.zipIdx.findSome? (search ∘ Prod.fst)
      = (list.zipIdx.map Prod.fst).findSome? search := List.findSome?_map.symm
    _ = list.findSome? search := by rw [listed]

section Places

variable {γ : Type w} {search : α × Nat → Option γ} {list : List α} {found : γ}

theorem findSome?_zipIdx_eq_none_iff : list.zipIdx.findSome? search = none ↔
    ∀ place entry, list[place]? = some entry → search (entry, place) = none := by
  rw [List.findSome?_eq_none_iff, Prod.forall]
  simp only [List.mem_zipIdx_iff_getElem?]
  exact forall_comm

/-- What is found is found at a place, and nothing is found at the places before it. -/
theorem exists_place_of_findSome?_zipIdx (finds : list.zipIdx.findSome? search = some found) :
    ∃ place entry, list[place]? = some entry ∧ search (entry, place) = some found ∧
      ∀ before < place, ∀ other, list[before]? = some other → search (other, before) = none := by
  rcases List.findSome?_eq_some_iff.mp finds with ⟨passed, entry, rest, split, hit, none⟩
  have placed (place : Nat) : list.zipIdx[place]? = list[place]?.map (·, place) := by
    simp [List.getElem?_zipIdx]
  -- The entry that is hit stands behind those that were passed, so their number is its place.
  have here : list.zipIdx[passed.length]? = some entry := by simp [split]
  rcases Option.map_eq_some_iff.mp ((placed _).symm.trans here) with ⟨listed, atPlace, rfl⟩
  refine ⟨_, listed, atPlace, hit, fun before earlier other atBefore => none _ ?_⟩
  have there : list.zipIdx[before]? = some (other, before) := by
    rw [placed, atBefore]
    rfl
  rw [split, List.getElem?_append_left earlier] at there
  exact List.mem_of_getElem? there

theorem findSome?_zipIdx_eq_some_iff : list.zipIdx.findSome? search = some found ↔
    ∃ place entry, list[place]? = some entry ∧ search (entry, place) = some found ∧
      ∀ before < place, ∀ other, list[before]? = some other → search (other, before) = none := by
  refine ⟨exists_place_of_findSome?_zipIdx, ?_⟩
  rintro ⟨place, entry, atPlace, hit, nothing⟩
  cases finds : list.zipIdx.findSome? search with
  | none =>
      rw [findSome?_zipIdx_eq_none_iff.mp finds place entry atPlace] at hit
      cases hit
  | some other =>
      rcases exists_place_of_findSome?_zipIdx finds with
        ⟨first, listed, atFirst, hitFirst, nothingBefore⟩
      rcases Nat.lt_trichotomy place first with earlier | rfl | later
      · rw [nothingBefore place earlier entry atPlace] at hit
        cases hit
      · cases atPlace.symm.trans atFirst
        exact hitFirst.symm.trans hit
      · rw [nothing first later listed atFirst] at hitFirst
        cases hitFirst

end Places

end TileMatch
