import TileMatch.Proofs.Wire.Lawful
import TileMatch.Wire.Catalog.Board

/-!
# The forms of squares and pieces are lawful
-/

namespace TileMatch

open Wire

theorem Slot.lawful :
    Lawful Binary32.isFinite Slot.schema (fun _ => True) Slot.toValue Slot.ofValue? where
  proper := trivial
  admits {slot} _ := by
    refine ⟨slot.index.val, rfl, Width.contains_iff.mpr ⟨?_, ?_⟩, ?_⟩
    · exact Int.natCast_nonneg _
    · exact Int.ofNat_le.mpr (Nat.le_trans (Nat.le_of_lt slot.index.isLt) (by decide))
    · exact Int.ofNat_le.mpr (Nat.le_of_lt_succ slot.index.isLt)
  covers := by
    rintro _ ⟨number, rfl, fits, bounded⟩
    have nonneg : 0 ≤ number := (Width.contains_iff.mp fits).1
    obtain ⟨index, rfl⟩ := Int.eq_ofNat_of_zero_le nonneg
    exact ⟨⟨⟨index, by omega⟩⟩, trivial, rfl⟩
  ofValue?_toValue slot := by
    rcases slot with ⟨index, below⟩
    simp [Slot.toValue, Slot.ofValue?, Slot.ofIndex, below, Except.toOption]

theorem Piece.lawful :
    Lawful Binary32.isFinite Piece.schema (fun _ => True) Piece.toValue Piece.ofValue? :=
  .ofNames (by decide) fun piece => by cases piece <;> decide

theorem Rotation.lawful :
    Lawful Binary32.isFinite Rotation.schema (fun _ => True) Rotation.toValue Rotation.ofValue? :=
  .ofNames (by decide) fun rotation => by cases rotation <;> decide

theorem Flip.lawful :
    Lawful Binary32.isFinite Flip.schema (fun _ => True) Flip.toValue Flip.ofValue? :=
  .ofNames (by decide) fun flip => by cases flip <;> decide

/-- Coordinates are signed integers of thirty-two bits. -/
def Position.Fits (position : Position) : Prop :=
  Width.signed32.contains position.row = true ∧ Width.signed32.contains position.column = true

theorem Position.lawful :
    Lawful Binary32.isFinite Position.schema Position.Fits Position.toValue Position.ofValue? where
  proper := by simp [Position.schema]
  admits fits := ⟨_, rfl, _, _, rfl, (Lawful.integer _).admits fits.1, _, _, rfl,
    (Lawful.integer _).admits fits.2, rfl⟩
  covers := by
    rintro _ ⟨_, rfl, _, _, rfl, rowAdmits, _, _, rfl, columnAdmits, rfl⟩
    obtain ⟨row, rowFits, rfl⟩ := (Lawful.integer _).covers rowAdmits
    obtain ⟨column, columnFits, rfl⟩ := (Lawful.integer _).covers columnAdmits
    exact ⟨⟨row, column⟩, ⟨rowFits, columnFits⟩, rfl⟩
  ofValue?_toValue _ := rfl

theorem CellOwner.lawful : Lawful Binary32.isFinite CellOwner.schema (fun _ => True)
    CellOwner.toValue CellOwner.ofValue? where
  proper := by simp [CellOwner.schema, Variants.Proper, Variants.names, Slot.lawful.proper]
  admits {owner} _ := by
    cases owner with
    | empty => exact .inl rfl
    | owned slot => exact .inr (.inl ⟨_, rfl, Slot.lawful.admits trivial⟩)
    | obstacle => exact .inr (.inr (.inl rfl))
  covers := by
    rintro _ (rfl | ⟨_, rfl, slotAdmits⟩ | rfl | ⟨⟨⟩⟩)
    · exact ⟨.empty, trivial, rfl⟩
    · obtain ⟨slot, _, rfl⟩ := Slot.lawful.covers slotAdmits
      exact ⟨.owned slot, trivial, rfl⟩
    · exact ⟨.obstacle, trivial, rfl⟩
  ofValue?_toValue owner := by
    cases owner with
    | owned slot => simp [CellOwner.toValue, CellOwner.ofValue?, Slot.lawful.ofValue?_toValue]
    | empty | obstacle => rfl

/-- A change fits when its position does. -/
def CellChange.Fits (change : CellChange) : Prop := change.position.Fits

theorem CellChange.lawful : Lawful Binary32.isFinite CellChange.schema CellChange.Fits
    CellChange.toValue CellChange.ofValue? where
  proper := by
    simp [CellChange.schema, Position.lawful.proper, CellOwner.lawful.proper]
  admits fits := ⟨_, rfl, _, _, rfl, Position.lawful.admits fits, _, _, rfl,
    CellOwner.lawful.admits trivial, rfl⟩
  covers := by
    rintro _ ⟨_, rfl, _, _, rfl, positionAdmits, _, _, rfl, ownerAdmits, rfl⟩
    obtain ⟨position, fits, rfl⟩ := Position.lawful.covers positionAdmits
    obtain ⟨owner, _, rfl⟩ := CellOwner.lawful.covers ownerAdmits
    exact ⟨⟨position, owner⟩, fits, rfl⟩
  ofValue?_toValue change := by
    simp [CellChange.toValue, CellChange.ofValue?, Position.lawful.ofValue?_toValue,
      CellOwner.lawful.ofValue?_toValue]

theorem Shape.lawful :
    Lawful Binary32.isFinite Shape.schema (fun _ => True) Shape.toValue Shape.ofValue? where
  proper := by
    simp [Shape.schema, Piece.lawful.proper, Rotation.lawful.proper,
      Flip.lawful.proper, Rotation.lawful.admits trivial, Flip.lawful.admits trivial]
  admits _ := ⟨_, rfl, _, _, rfl, Piece.lawful.admits trivial, _, _, rfl,
    Rotation.lawful.admits trivial, _, _, rfl, Flip.lawful.admits trivial, rfl⟩
  covers := by
    rintro _ ⟨_, rfl, _, _, rfl, pieceAdmits, _, _, rfl, rotationAdmits, _, _, rfl, flipAdmits, rfl⟩
    obtain ⟨piece, _, rfl⟩ := Piece.lawful.covers pieceAdmits
    obtain ⟨rotation, _, rfl⟩ := Rotation.lawful.covers rotationAdmits
    obtain ⟨flip, _, rfl⟩ := Flip.lawful.covers flipAdmits
    exact ⟨⟨piece, rotation, flip⟩, trivial, rfl⟩
  ofValue?_toValue shape := by
    simp [Shape.toValue, Shape.ofValue?, Piece.lawful.ofValue?_toValue,
      Rotation.lawful.ofValue?_toValue, Flip.lawful.ofValue?_toValue]

end TileMatch
