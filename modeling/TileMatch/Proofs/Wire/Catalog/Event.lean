import TileMatch.Proofs.Wire.Catalog.Board
import TileMatch.Wire.Catalog.Event

/-!
# The forms of the events of the server are lawful
-/

namespace TileMatch

open Wire

/-- An entry fits when its seat number is a signed integer of sixty-four bits. -/
def SeatEntry.Fits (entry : SeatEntry) : Prop := Width.signed64.contains entry.slot = true

theorem SeatEntry.lawful : Lawful Binary32.isFinite SeatEntry.schema SeatEntry.Fits
    SeatEntry.toValue SeatEntry.ofValue? where
  proper := by simp [SeatEntry.schema, Schema.Admits]
  admits fits := ⟨_, rfl, _, _, rfl, (Lawful.integer _).admits fits, _, _, rfl, ⟨_, rfl⟩, _, _, rfl,
    ⟨_, rfl⟩, _, _, rfl, ⟨_, rfl⟩, _, _, rfl, ⟨_, rfl⟩, rfl⟩
  covers := by
    rintro _ ⟨_, rfl, _, _, rfl, slotAdmits, _, _, rfl, ⟨userId, rfl⟩, _, _, rfl,
      ⟨displayName, rfl⟩, _, _, rfl, ⟨ready, rfl⟩, _, _, rfl, ⟨isHost, rfl⟩, rfl⟩
    obtain ⟨slot, fits, rfl⟩ := (Lawful.integer _).covers slotAdmits
    exact ⟨⟨slot, userId, displayName, ready, isHost⟩, fits, rfl⟩
  ofValue?_toValue _ := rfl

namespace ServerEvent

/-- Numbers of seats are signed integers of sixty-four bits, cell codes and coordinates of
thirty-two; scores and turn numbers have thirty-two bits without sign; times are finite. -/
def Fits : ServerEvent → Prop
  | roomJoined _ players => ∀ entry ∈ players, entry.Fits
  | playerJoined slot _ _ => Width.signed64.contains slot = true
  | playerLeft slot => Width.signed64.contains slot = true
  | playerReady slot _ => Width.signed64.contains slot = true
  | hostChanged slot => Width.signed64.contains slot = true
  | gameStarted => True
  | turnChanged slot turnTime remaining _ turnNumber =>
    Width.signed64.contains slot = true ∧ (∀ seconds ∈ turnTime, seconds.isFinite = true) ∧
      remaining.isFinite = true ∧ Width.unsigned32.contains turnNumber = true
  | boardSnapshot grid => ∀ row ∈ grid, ∀ code ∈ row, Width.signed32.contains code = true
  | cellsPlaced slot _ cells scoreGained =>
    Width.signed64.contains slot = true ∧ (∀ cell ∈ cells, cell.Fits) ∧
      ∀ score ∈ scoreGained, Width.unsigned32.contains score = true
  | placementRejected _ => True
  | scoresUpdated scores => ∀ entry ∈ scores,
    Width.signed64.contains entry.1 = true ∧ Width.unsigned32.contains entry.2 = true
  | gameEnded winner => ∀ slot ∈ winner, Width.signed64.contains slot = true
  | disconnected _ => True
  | roomLeft => True

theorem score_lawful :
    Lawful Binary32.isFinite (.pair (.ofWidth .signed64) (.ofWidth .unsigned32))
      (fun score : Int × Nat =>
        Width.signed64.contains score.1 = true ∧ Width.unsigned32.contains score.2 = true)
      scoreToValue scoreOfValue? where
  proper := ⟨trivial, trivial⟩
  admits fits := ⟨_, _, rfl, (Lawful.integer _).admits fits.1, (Lawful.natural rfl).admits fits.2⟩
  covers := by
    rintro _ ⟨_, _, rfl, slotAdmits, scoreAdmits⟩
    obtain ⟨slot, slotFits, rfl⟩ := (Lawful.integer _).covers slotAdmits
    obtain ⟨score, scoreFits, rfl⟩ := (Lawful.natural rfl).covers scoreAdmits
    exact ⟨(slot, score), ⟨slotFits, scoreFits⟩, rfl⟩
  ofValue?_toValue score := by
    simp [scoreToValue, scoreOfValue?, Value.ofNat, Value.toNat?]

theorem lawful : Lawful Binary32.isFinite ServerEvent.schema ServerEvent.Fits
    ServerEvent.toValue ServerEvent.ofValue? where
  proper := by
    have noTurn : (Schema.ofWidth .unsigned32).Admits Binary32.isFinite (.integer 0) :=
      (Lawful.integer _).admits rfl
    simp [schema, Variants.Proper, Variants.names, SeatEntry.lawful.proper, Position.lawful.proper,
      Schema.Admits, (Lawful.single.option rfl).proper, (Piece.lawful.option rfl).proper,
      ((Lawful.integer .signed64).option rfl).proper,
      ((Lawful.integer .unsigned32).option rfl).proper, noTurn]
  admits {event} fits := by
    cases event with
    | roomJoined roomId players =>
        exact Variants.admits_tagged rfl ⟨_, _, rfl, ⟨_, rfl⟩, _, _, rfl,
          SeatEntry.lawful.list.admits fits, rfl⟩
    | playerJoined slot userId displayName =>
        exact Variants.admits_tagged rfl ⟨_, _, rfl, (Lawful.integer _).admits fits, _, _, rfl,
          ⟨_, rfl⟩, _, _, rfl, ⟨_, rfl⟩, rfl⟩
    | playerLeft slot | hostChanged slot =>
        exact Variants.admits_tagged rfl ⟨_, _, rfl, (Lawful.integer _).admits fits, rfl⟩
    | playerReady slot ready =>
        exact Variants.admits_tagged rfl ⟨_, _, rfl, (Lawful.integer _).admits fits, _, _, rfl,
          ⟨_, rfl⟩, rfl⟩
    | gameStarted | roomLeft => exact Variants.admits_plain rfl
    | turnChanged slot turnTime remaining previousTimedOut turnNumber =>
        exact Variants.admits_tagged rfl ⟨_, _, rfl, (Lawful.integer _).admits fits.1, _, _, rfl,
          (Lawful.single.option rfl).admits fits.2.1, _, _, rfl, Lawful.single.admits fits.2.2.1,
          _, _, rfl, ⟨_, rfl⟩, _, _, rfl, (Lawful.natural rfl).admits fits.2.2.2, rfl⟩
    | boardSnapshot grid =>
        exact Variants.admits_tagged rfl ⟨_, _, rfl, (Lawful.integer _).list.list.admits fits, rfl⟩
    | cellsPlaced slot piece cells scoreGained =>
        exact Variants.admits_tagged rfl ⟨_, _, rfl, (Lawful.integer _).admits fits.1, _, _, rfl,
          (Piece.lawful.option rfl).admits fun _ _ => trivial, _, _, rfl,
          Position.lawful.list.admits fits.2.1, _, _, rfl,
          ((Lawful.natural rfl).option rfl).admits fits.2.2, rfl⟩
    | placementRejected code | disconnected code =>
        exact Variants.admits_tagged rfl ⟨_, _, rfl, ⟨_, rfl⟩, rfl⟩
    | scoresUpdated scores =>
        exact Variants.admits_tagged rfl ⟨_, _, rfl, score_lawful.list.admits fits, rfl⟩
    | gameEnded winner =>
        exact Variants.admits_tagged rfl ⟨_, _, rfl,
          ((Lawful.integer _).option rfl).admits fits, rfl⟩
  covers := by
    rintro _ (⟨_, rfl, _, _, rfl, ⟨roomId, rfl⟩, _, _, rfl, playersAdmits, rfl⟩ |
      ⟨_, rfl, _, _, rfl, slotAdmits, _, _, rfl, ⟨userId, rfl⟩, _, _, rfl, ⟨displayName, rfl⟩,
        rfl⟩ |
      ⟨_, rfl, _, _, rfl, slotAdmits, rfl⟩ |
      ⟨_, rfl, _, _, rfl, slotAdmits, _, _, rfl, ⟨ready, rfl⟩, rfl⟩ |
      ⟨_, rfl, _, _, rfl, slotAdmits, rfl⟩ | rfl |
      ⟨_, rfl, _, _, rfl, slotAdmits, _, _, rfl, turnTimeAdmits, _, _, rfl, remainingAdmits,
        _, _, rfl, ⟨previousTimedOut, rfl⟩, _, _, rfl, turnNumberAdmits, rfl⟩ |
      ⟨_, rfl, _, _, rfl, gridAdmits, rfl⟩ |
      ⟨_, rfl, _, _, rfl, slotAdmits, _, _, rfl, pieceAdmits, _, _, rfl, cellsAdmits,
        _, _, rfl, scoreAdmits, rfl⟩ |
      ⟨_, rfl, _, _, rfl, ⟨code, rfl⟩, rfl⟩ | ⟨_, rfl, _, _, rfl, scoresAdmits, rfl⟩ |
      ⟨_, rfl, _, _, rfl, winnerAdmits, rfl⟩ | ⟨_, rfl, _, _, rfl, ⟨code, rfl⟩, rfl⟩ | rfl | ⟨⟨⟩⟩)
    · obtain ⟨players, fits, rfl⟩ := SeatEntry.lawful.list.covers playersAdmits
      exact ⟨roomJoined roomId players, fits, rfl⟩
    · obtain ⟨slot, fits, rfl⟩ := (Lawful.integer _).covers slotAdmits
      exact ⟨playerJoined slot userId displayName, fits, rfl⟩
    · obtain ⟨slot, fits, rfl⟩ := (Lawful.integer _).covers slotAdmits
      exact ⟨playerLeft slot, fits, rfl⟩
    · obtain ⟨slot, fits, rfl⟩ := (Lawful.integer _).covers slotAdmits
      exact ⟨playerReady slot ready, fits, rfl⟩
    · obtain ⟨slot, fits, rfl⟩ := (Lawful.integer _).covers slotAdmits
      exact ⟨hostChanged slot, fits, rfl⟩
    · exact ⟨gameStarted, trivial, rfl⟩
    · obtain ⟨slot, slotFits, rfl⟩ := (Lawful.integer _).covers slotAdmits
      obtain ⟨turnTime, turnTimeFits, rfl⟩ := (Lawful.single.option rfl).covers turnTimeAdmits
      obtain ⟨remaining, remainingFits, rfl⟩ := Lawful.single.covers remainingAdmits
      obtain ⟨turnNumber, turnNumberFits, rfl⟩ := (Lawful.natural rfl).covers turnNumberAdmits
      exact ⟨turnChanged slot turnTime remaining previousTimedOut turnNumber,
        ⟨slotFits, turnTimeFits, remainingFits, turnNumberFits⟩, rfl⟩
    · obtain ⟨grid, fits, rfl⟩ := (Lawful.integer _).list.list.covers gridAdmits
      exact ⟨boardSnapshot grid, fits, rfl⟩
    · obtain ⟨slot, slotFits, rfl⟩ := (Lawful.integer _).covers slotAdmits
      obtain ⟨piece, _, rfl⟩ := (Piece.lawful.option rfl).covers pieceAdmits
      obtain ⟨cells, cellsFit, rfl⟩ := Position.lawful.list.covers cellsAdmits
      obtain ⟨score, scoreFits, rfl⟩ := ((Lawful.natural rfl).option rfl).covers scoreAdmits
      exact ⟨cellsPlaced slot piece cells score, ⟨slotFits, cellsFit, scoreFits⟩, rfl⟩
    · exact ⟨placementRejected code, trivial, rfl⟩
    · obtain ⟨scores, fits, rfl⟩ := score_lawful.list.covers scoresAdmits
      exact ⟨scoresUpdated scores, fits, rfl⟩
    · obtain ⟨winner, fits, rfl⟩ := ((Lawful.integer _).option rfl).covers winnerAdmits
      exact ⟨gameEnded winner, fits, rfl⟩
    · exact ⟨disconnected code, trivial, rfl⟩
    · exact ⟨roomLeft, trivial, rfl⟩
  ofValue?_toValue event := by
    have counts := @Lawful.natural Binary32.isFinite .unsigned32 rfl
    have turnTimes := (@Lawful.single Binary32.isFinite).option rfl
    have grids := (@Lawful.integer Binary32.isFinite .signed32).list.list
    have winners := (@Lawful.integer Binary32.isFinite .signed64).option rfl
    cases event with
    | roomJoined roomId players =>
        simp [toValue, ofValue?, ofFields?, SeatEntry.lawful.list.ofValue?_toValue]
    | turnChanged slot turnTime remaining previousTimedOut turnNumber =>
        simp [toValue, ofValue?, ofFields?, turnTimes.ofValue?_toValue,
          counts.ofValue?_toValue]
    | boardSnapshot grid =>
        simp [toValue, ofValue?, ofFields?, grids.ofValue?_toValue]
    | cellsPlaced slot piece cells scoreGained =>
        simp [toValue, ofValue?, ofFields?, (Piece.lawful.option rfl).ofValue?_toValue,
          Position.lawful.list.ofValue?_toValue,
          (counts.option rfl).ofValue?_toValue]
    | scoresUpdated scores =>
        simp [toValue, ofValue?, ofFields?, score_lawful.list.ofValue?_toValue]
    | gameEnded winner =>
        simp [toValue, ofValue?, ofFields?,
          winners.ofValue?_toValue]
    | _ => rfl

end ServerEvent

end TileMatch
