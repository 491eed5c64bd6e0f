/-!
# Broken and not mended

Some steps of a past break a fact and some mend it. Where each step decides the fact in that way,
it fails at the end exactly if a step has broken it and no step has mended it since.
-/

namespace TileMatch

/-- A step of the past breaks a fact, and no later one mends it. -/
def Unmended {α : Type} (breaks mends : α → Prop) (past : List α) : Prop :=
  ∃ earlier cause since, past = earlier ++ cause :: since ∧ breaks cause ∧
    ∀ other ∈ since, ¬mends other

namespace Unmended

variable {α : Type} {breaks mends : α → Prop}

@[simp]
theorem not_nil : ¬Unmended breaks mends [] := by
  rintro ⟨earlier, cause, since, split, _⟩
  simp at split

/-- The last step breaks the fact, or it was broken before and the last step leaves it so. -/
theorem snoc_iff {past : List α} {last : α} :
    Unmended breaks mends (past ++ [last]) ↔
      breaks last ∨ (Unmended breaks mends past ∧ ¬mends last) := by
  constructor
  · rintro ⟨earlier, cause, since, split, broken, unmended⟩
    -- Nothing follows the cause, which is the last step then, or the last step follows it.
    rcases List.eq_nil_or_concat since with rfl | ⟨between, final, rfl⟩
    · left
      have same := (List.append_inj' split rfl).2
      rw [List.singleton_inj] at same
      rwa [same]
    · right
      rw [List.concat_eq_append, ← List.cons_append, ← List.append_assoc] at split
      rcases List.append_inj' split rfl with ⟨rfl, same⟩
      rw [List.singleton_inj] at same
      subst same
      refine ⟨⟨earlier, cause, between, rfl, broken, ?_⟩, unmended last (by simp)⟩
      exact fun other other_mem => unmended other (by simp [other_mem])
  · rintro (broken | ⟨⟨earlier, cause, since, rfl, broken, unmended⟩, kept⟩)
    · exact ⟨past, last, [], rfl, broken, by simp⟩
    · refine ⟨earlier, cause, since ++ [last], by simp, broken, ?_⟩
      intro other other_mem
      rcases List.mem_append.mp other_mem with old | new
      · exact unmended other old
      · rwa [List.mem_singleton.mp new]

/-- A fact that fails exactly after an unmended break goes on to do so with a step that keeps it if
it does not break it, and that restores it if it mends it. -/
theorem fact_snoc_iff {past : List α} {last : α} {before after : Prop}
    (fact : before ↔ ¬Unmended breaks mends past)
    (law : after ↔ ¬breaks last ∧ (mends last ∨ before)) :
    after ↔ ¬Unmended breaks mends (past ++ [last]) := by
  rw [law, fact, snoc_iff, not_or, Classical.not_and_iff_not_or_not, Classical.not_not, or_comm]

end Unmended

end TileMatch
