import TileMatch.Proofs.Wire.Catalog.Board
import TileMatch.Wire.Catalog.Notice
import TileMatch.Wire.Catalog.Request

/-!
# The forms of inputs, requests and notices are lawful
-/

namespace TileMatch

open Wire

/-- An input fits when the anchor of a selection does. -/
def LocalInput.Fits : LocalInput → Prop
  | select _ _ _ anchor => anchor.Fits
  | confirm => True
  | cancel => True

theorem LocalInput.lawful : Lawful Binary32.isFinite LocalInput.schema LocalInput.Fits
    LocalInput.toValue LocalInput.ofValue? where
  proper := by
    simp [LocalInput.schema, Variants.Proper, Variants.names, Piece.lawful.proper,
      Rotation.lawful.proper, Flip.lawful.proper, Position.lawful.proper,
      Rotation.lawful.admits trivial, Flip.lawful.admits trivial]
  admits {input} fits := by
    cases input with
    | select piece rotation flip anchor =>
        exact .inl ⟨_, rfl, _, _, rfl, Piece.lawful.admits trivial, _, _, rfl,
          Rotation.lawful.admits trivial, _, _, rfl, Flip.lawful.admits trivial, _, _, rfl,
          Position.lawful.admits fits, rfl⟩
    | confirm => exact .inr (.inl rfl)
    | cancel => exact .inr (.inr (.inl rfl))
  covers := by
    rintro _ (⟨_, rfl, _, _, rfl, pieceAdmits, _, _, rfl, rotationAdmits, _, _, rfl, flipAdmits,
      _, _, rfl, anchorAdmits, rfl⟩ | rfl | rfl | ⟨⟨⟩⟩)
    · obtain ⟨piece, _, rfl⟩ := Piece.lawful.covers pieceAdmits
      obtain ⟨rotation, _, rfl⟩ := Rotation.lawful.covers rotationAdmits
      obtain ⟨flip, _, rfl⟩ := Flip.lawful.covers flipAdmits
      obtain ⟨anchor, fits, rfl⟩ := Position.lawful.covers anchorAdmits
      exact ⟨.select piece rotation flip anchor, fits, rfl⟩
    · exact ⟨.confirm, trivial, rfl⟩
    · exact ⟨.cancel, trivial, rfl⟩
  ofValue?_toValue input := by
    cases input with
    | select piece rotation flip anchor =>
        simp [LocalInput.toValue, LocalInput.ofValue?, Piece.lawful.ofValue?_toValue,
          Rotation.lawful.ofValue?_toValue, Flip.lawful.ofValue?_toValue,
          Position.lawful.ofValue?_toValue]
    | confirm | cancel => rfl

def PlacementRequest.Fits (request : PlacementRequest) : Prop := request.anchor.Fits

theorem PlacementRequest.lawful : Lawful Binary32.isFinite PlacementRequest.schema
    PlacementRequest.Fits PlacementRequest.toValue PlacementRequest.ofValue? where
  proper := by
    simp [PlacementRequest.schema, Slot.lawful.proper, Piece.lawful.proper,
      Position.lawful.proper, Rotation.lawful.proper, Flip.lawful.proper]
  admits fits := ⟨_, rfl, _, _, rfl, Slot.lawful.admits trivial, _, _, rfl,
    Piece.lawful.admits trivial, _, _, rfl, Position.lawful.admits fits, _, _, rfl,
    Rotation.lawful.admits trivial, _, _, rfl, Flip.lawful.admits trivial, rfl⟩
  covers := by
    rintro _ ⟨_, rfl, _, _, rfl, slotAdmits, _, _, rfl, pieceAdmits, _, _, rfl, anchorAdmits,
      _, _, rfl, rotationAdmits, _, _, rfl, flipAdmits, rfl⟩
    obtain ⟨slot, _, rfl⟩ := Slot.lawful.covers slotAdmits
    obtain ⟨piece, _, rfl⟩ := Piece.lawful.covers pieceAdmits
    obtain ⟨anchor, fits, rfl⟩ := Position.lawful.covers anchorAdmits
    obtain ⟨rotation, _, rfl⟩ := Rotation.lawful.covers rotationAdmits
    obtain ⟨flip, _, rfl⟩ := Flip.lawful.covers flipAdmits
    exact ⟨⟨slot, piece, anchor, rotation, flip⟩, fits, rfl⟩
  ofValue?_toValue request := by
    simp [PlacementRequest.toValue, PlacementRequest.ofValue?, Slot.lawful.ofValue?_toValue,
      Piece.lawful.ofValue?_toValue, Position.lawful.ofValue?_toValue,
      Rotation.lawful.ofValue?_toValue, Flip.lawful.ofValue?_toValue]

def OutboundRequest.Fits : OutboundRequest → Prop
  | placement request => request.Fits
  | pass => True
  | resync => True

theorem OutboundRequest.lawful : Lawful Binary32.isFinite OutboundRequest.schema
    OutboundRequest.Fits OutboundRequest.toValue OutboundRequest.ofValue? where
  proper := by
    simp [OutboundRequest.schema, Variants.Proper, Variants.names,
      PlacementRequest.lawful.proper]
  admits {request} fits := by
    cases request with
    | placement request => exact .inl ⟨_, rfl, PlacementRequest.lawful.admits fits⟩
    | pass => exact .inr (.inl rfl)
    | resync => exact .inr (.inr (.inl rfl))
  covers := by
    rintro _ (⟨_, rfl, admits⟩ | rfl | rfl | ⟨⟨⟩⟩)
    · obtain ⟨request, fits, rfl⟩ := PlacementRequest.lawful.covers admits
      exact ⟨.placement request, fits, rfl⟩
    · exact ⟨.pass, trivial, rfl⟩
    · exact ⟨.resync, trivial, rfl⟩
  ofValue?_toValue request := by
    cases request with
    | placement request =>
        simp [OutboundRequest.toValue, OutboundRequest.ofValue?,
          PlacementRequest.lawful.ofValue?_toValue]
    | pass | resync => rfl

theorem Operation.lawful : Lawful Binary32.isFinite Operation.schema (fun _ => True)
    Operation.toValue Operation.ofValue? :=
  .ofNames (by decide) fun operation => by cases operation <;> decide

def RequestKey.Fits (key : RequestKey) : Prop := ∀ anchor ∈ key.anchor, anchor.Fits

theorem RequestKey.lawful : Lawful Binary32.isFinite RequestKey.schema RequestKey.Fits
    RequestKey.toValue RequestKey.ofValue? where
  proper := by
    simp [RequestKey.schema, Operation.lawful.proper, Slot.lawful.proper,
      (Position.lawful.option rfl).proper, (Piece.lawful.option rfl).proper]
  admits fits := ⟨_, rfl, _, _, rfl, Operation.lawful.admits trivial, _, _, rfl,
    Slot.lawful.admits trivial, _, _, rfl, (Position.lawful.option rfl).admits fits, _, _, rfl,
    (Piece.lawful.option rfl).admits fun _ _ => trivial, rfl⟩
  covers := by
    rintro _ ⟨_, rfl, _, _, rfl, operationAdmits, _, _, rfl, slotAdmits, _, _, rfl, anchorAdmits,
      _, _, rfl, pieceAdmits, rfl⟩
    obtain ⟨operation, _, rfl⟩ := Operation.lawful.covers operationAdmits
    obtain ⟨slot, _, rfl⟩ := Slot.lawful.covers slotAdmits
    obtain ⟨anchor, fits, rfl⟩ := (Position.lawful.option rfl).covers anchorAdmits
    obtain ⟨piece, _, rfl⟩ := (Piece.lawful.option rfl).covers pieceAdmits
    exact ⟨⟨operation, slot, anchor, piece⟩, fits, rfl⟩
  ofValue?_toValue key := by
    simp [RequestKey.toValue, RequestKey.ofValue?, Operation.lawful.ofValue?_toValue,
      Slot.lawful.ofValue?_toValue, (Position.lawful.option rfl).ofValue?_toValue,
      (Piece.lawful.option rfl).ofValue?_toValue]

theorem Notice.lawful :
    Lawful Binary32.isFinite Notice.schema (fun _ => True) Notice.toValue Notice.ofValue? where
  proper := by
    simp [Notice.schema, Variants.Proper, Variants.names,
      (Slot.lawful.option rfl).proper]
  admits {notice} _ := by
    cases notice with
    | gameStarted => exact .inl rfl
    | previousTurnTimedOut previous =>
        exact .inr (.inl ⟨_, rfl, _, _, rfl,
          (Slot.lawful.option rfl).admits fun _ _ => trivial, rfl⟩)
    | gameEnded winner =>
        exact .inr (.inr (.inl ⟨_, rfl, _, _, rfl,
          (Slot.lawful.option rfl).admits fun _ _ => trivial, rfl⟩))
  covers := by
    rintro _ (rfl | ⟨_, rfl, _, _, rfl, previousAdmits, rfl⟩ |
      ⟨_, rfl, _, _, rfl, winnerAdmits, rfl⟩ | ⟨⟨⟩⟩)
    · exact ⟨.gameStarted, trivial, rfl⟩
    · obtain ⟨previous, _, rfl⟩ := (Slot.lawful.option rfl).covers previousAdmits
      exact ⟨.previousTurnTimedOut previous, trivial, rfl⟩
    · obtain ⟨winner, _, rfl⟩ := (Slot.lawful.option rfl).covers winnerAdmits
      exact ⟨.gameEnded winner, trivial, rfl⟩
  ofValue?_toValue notice := by
    cases notice with
    | gameStarted => rfl
    | previousTurnTimedOut | gameEnded =>
        simp [Notice.toValue, Notice.ofValue?, (Slot.lawful.option rfl).ofValue?_toValue]

end TileMatch
