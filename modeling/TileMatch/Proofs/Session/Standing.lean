import Mathlib.Algebra.GroupWithZero.Nat
import TileMatch.Proofs.Room.Standing
import TileMatch.Proofs.Session.Roster

/-!
# Scores and remaining pieces

What a player has reached is counted along while placements arrive, and it is set from time to time:
to the start for a player who sits down and for everybody when a game begins, and to a total of the
server's as far as the score goes. So the score is the value that has been set last with the points
of the placements since, and the remaining pieces are those of the start less one for each placement
since the player sat down and the game began.

A session only knows the sums, and the history is compared with them. `SharedView.standing_receive`
says what each event makes of a standing, `Moment.standingStep` sorts the events into the four
things that can happen to one, and the account is an induction over these.
-/

namespace TileMatch

/-- The points of a placement: as the server says, else the size of the piece, else the number of
squares. -/
def pointsOf : Option Nat → Option Piece → List Position → Nat
  | some points, _, _ => points
  | none, some piece, _ => piece.size
  | none, none, cells => cells.length

namespace ServerEvent

/-- The event seats a player. -/
@[simp]
def Seats (slot : Slot) : ServerEvent → Prop
  | playerJoined number _ _ => number = slot.toServer
  | roomJoined _ players => ∃ entry ∈ players, entry.slot = slot.toServer
  | _ => False

/-- In a phase the event starts a game, as the first turn does if it comes before the start. -/
@[simp]
def StartsGame (phase : Phase) : ServerEvent → Prop
  | gameStarted => True
  | turnChanged _ _ _ _ _ => phase = .waiting
  | _ => False

/-- The last total score for a seat, if the event tells one. -/
@[simp]
def total? (slot : Slot) : ServerEvent → Option Nat
  | scoresUpdated scores => scores.reverse.lookup slot.toServer
  | _ => none

/-- The points of a placement for a seat, if that is what the event tells. -/
@[simp]
def gain? (slot : Slot) : ServerEvent → Option Nat
  | cellsPlaced number piece cells scoreGained =>
    if number = slot.toServer then some (pointsOf scoreGained piece cells) else none
  | _ => none

end ServerEvent

namespace Moment

variable (moment : Moment) (slot : Slot)

/-- The call seats a player or starts a game, so that the player in a seat starts afresh. -/
def Renews : Prop :=
  ∃ event, moment.Receives event ∧
    (event.Seats slot ∨ event.StartsGame moment.before.turn.phase)

/-- The call takes over a total score for a seat. -/
def TellsScore (total : Nat) : Prop :=
  ∃ event, moment.Receives event ∧ event.total? slot = some total

/-- The call sets the score of a seat. -/
def SetsScore (base : Nat) : Prop := (moment.Renews slot ∧ base = 0) ∨ moment.TellsScore slot base

/-- The points of the placement for a seat that an open session is told of, if it is. -/
def gain? : Option Nat :=
  match moment.call with
  | .handle event _ => if moment.before.closed then none else event.gain? slot
  | _ => none

end Moment

/-- The points of the placements for a seat, one after the other. -/
def gains (moments : List Moment) (slot : Slot) : List Nat := moments.filterMap (·.gain? slot)

/-- The score of a seat counts the value that has been set last with all points since. -/
def ScoreFollows (past : List Moment) (slot : Slot) (score : UInt32) : Prop :=
  ∃ moment since, LastWith (fun moment => ∃ base, moment.SetsScore slot base) past moment since ∧
    ∀ base, moment.SetsScore slot base → IsScoreOf score (base + (gains since slot).sum)

/-- From the pieces of a seat one is gone for each placement since the last new start. -/
def PiecesFollow (past : List Moment) (slot : Slot) (remainingPieces : Nat) : Prop :=
  ∃ moment since, LastWith (·.Renews slot) past moment since ∧
    remainingPieces = 21 - (gains since slot).length

/-- What a player in a seat has reached follows from what has been received. -/
structure AccountedFor (past : List Moment) (slot : Slot) (standing : Standing) : Prop where
  score : ScoreFollows past slot standing.score
  remainingPieces : PiecesFollow past slot standing.remainingPieces

/-! ## Events -/

/-- Everybody on a roster starts afresh. -/
theorem Room.standing?_roomOf {roomId : String} {players : List SeatEntry} {room : Room}
    (accepted : Session.roomOf roomId players = .ok room) (slot : Slot) :
    room.standing? slot =
      if ∃ entry ∈ players, entry.slot = slot.toServer then some .fresh else none := by
  rw [standing?, (Session.isRosterOf_roomOf accepted).seated]
  simp only [← isSome_entryOf?_iff]
  cases entryOf? players slot with
  | none => rfl
  | some entry => rfl

theorem Session.pointsFor_eq (scoreGained : Option Nat) (piece : Option Piece)
    (cells : List Position) :
    pointsFor piece cells scoreGained = pointsOf scoreGained piece cells := by
  cases scoreGained <;> cases piece <;> rfl

theorem Session.lookup_scoresOf {scores : List (Int × Nat)} {totals : List (Slot × Nat)}
    (accepted : scoresOf scores = .ok totals) (slot : Slot) :
    totals.reverse.lookup slot = scores.reverse.lookup slot.toServer := by
  induction scores generalizing totals with
  | nil =>
      cases accepted
      rfl
  | cons entry rest hypothesis =>
      rcases entry with ⟨number, total⟩
      simp only [scoresOf] at accepted
      cases found : seatOf number with
      | error error => simp [found] at accepted
      | ok seat =>
          rw [found] at accepted
          cases later : scoresOf rest with
          | error error => simp [later, Except.map] at accepted
          | ok others =>
              simp only [later, Except.map, Except.ok.injEq] at accepted
              subst accepted
              have own : (slot == seat) = (slot.toServer == number) := by
                rw [Bool.eq_iff_iff, beq_iff_eq, beq_iff_eq, ← eq_toServer_iff found, eq_comm]
              simp only [List.reverse_cons, List.lookup_append, hypothesis later,
                List.lookup_cons, own]
              rfl

namespace SharedView

variable (view : SharedView) (slot : Slot)

/-- What an accepted event makes of the standing in a seat. -/
def standingAfter : ServerEvent → Option Standing
  | .roomJoined _ players =>
    if ∃ entry ∈ players, entry.slot = slot.toServer then some .fresh else none
  | .playerJoined number _ _ =>
    if number = slot.toServer then some .fresh else view.room.standing? slot
  | .playerLeft number => if number = slot.toServer then none else view.room.standing? slot
  | .gameStarted => (view.room.standing? slot).map fun _ => .fresh
  | .turnChanged _ _ _ _ _ =>
    if view.stage = .waiting then (view.room.standing? slot).map fun _ => .fresh
    else view.room.standing? slot
  | .cellsPlaced number piece cells scoreGained =>
    if number = slot.toServer then
      (view.room.standing? slot).map (·.placed (pointsOf scoreGained piece cells))
    else view.room.standing? slot
  | .scoresUpdated scores =>
    (view.room.standing? slot).map fun standing =>
      ((scores.reverse.lookup slot.toServer).map standing.scored).getD standing
  | .disconnected _ | .roomLeft => none
  | _ => view.room.standing? slot

theorem standing_turnChanged (seat : Slot) (number : Nat) :
    (view.turnChanged seat number).room.standing? slot =
      if view.stage = .waiting then (view.room.standing? slot).map fun _ => .fresh
      else view.room.standing? slot := by
  unfold turnChanged
  cases view.stage with
  | waiting => simp [Room.standing?_startGame]
  | active | ended => simp

variable {view}

theorem standing_receive (slot : Slot) {event : ServerEvent} (isOpen : view.closed = false)
    (answer : (view.receive event).2 = .ok ()) :
    (view.receive event).1.room.standing? slot = view.standingAfter slot event := by
  have notClosed : ¬view.closed = true := by simp [isOpen]
  unfold receive at answer ⊢
  rw [if_neg notClosed] at answer ⊢
  cases event with
  | roomJoined roomId players =>
      dsimp only at answer ⊢
      split at answer
      case h_1 room accepted =>
        exact Room.standing?_roomOf accepted slot
      case h_2 => cases answer
  | playerJoined | playerLeft | cellsPlaced =>
      rcases atSeat_of_accepted answer with ⟨seat, number, applied⟩
      have own := @Session.eq_toServer_iff _ _ slot (Session.seatOf_eq_ok_iff.mpr number)
      dsimp only
      rw [applied]
      simp only [standingAfter, own, Room.standing?_seat, Room.standing?_remove,
        Room.standing?_recordPlacement, Session.pointsFor_eq]
  | playerReady | hostChanged =>
      rcases atSeat_of_accepted answer with ⟨seat, _, applied⟩
      dsimp only
      rw [applied]
      simp [standingAfter]
  | turnChanged =>
      rcases atSeat_of_accepted answer with ⟨seat, _, applied⟩
      dsimp only
      rw [applied]
      exact view.standing_turnChanged slot _ _
  | boardSnapshot =>
      dsimp only at answer ⊢
      split at answer
      case h_1 => rfl
      case h_2 => cases answer
  | scoresUpdated scores =>
      dsimp only at answer ⊢
      split at answer
      case h_1 totals accepted =>
        rw [Room.standing?_applyScores, Session.lookup_scoresOf accepted]
        rfl
      case h_2 => cases answer
  | gameStarted => exact Room.standing?_startGame
  | placementRejected => rfl
  | gameEnded => simp [standingAfter]
  | disconnected | roomLeft => simp [standingAfter, closing]

end SharedView

/-! ## Calls -/

/-- What happens in one call to the standing of a player who is seated afterwards. -/
inductive StandingStep (moment : Moment) (slot : Slot) : Standing → Prop where
  | renewed (renews : moment.Renews slot) (untold : ∀ total, ¬moment.TellsScore slot total) :
    StandingStep moment slot .fresh
  | told {before : Standing} {total : Nat} (old : ¬moment.Renews slot)
      (tells : ∀ other, moment.TellsScore slot other ↔ total = other)
      (unplaced : moment.gain? slot = none)
      (found : moment.before.room.standing? slot = some before) :
    StandingStep moment slot (before.scored total)
  | placed {before : Standing} {points : Nat} (old : ¬moment.Renews slot)
      (untold : ∀ total, ¬moment.TellsScore slot total) (gains : moment.gain? slot = some points)
      (found : moment.before.room.standing? slot = some before) :
    StandingStep moment slot (before.placed points)
  | kept {before : Standing} (old : ¬moment.Renews slot)
      (untold : ∀ total, ¬moment.TellsScore slot total) (unplaced : moment.gain? slot = none)
      (found : moment.before.room.standing? slot = some before) :
    StandingStep moment slot before

theorem Phase.stage_eq_waiting_iff {phase : Phase} : phase.stage = .waiting ↔ phase = .waiting := by
  cases phase <;> simp [stage]

namespace Moment

variable {moment : Moment} {slot : Slot} {event : ServerEvent}

/-- What is said about the event that is received is said about this one. -/
theorem Receives.exists_iff {property : ServerEvent → Prop} (received : moment.Receives event) :
    (∃ other, moment.Receives other ∧ property other) ↔ property event := by
  simp [received.iff_eq]

/-- What is received counts for a seat as the event says. -/
theorem Receives.gain?_eq (received : moment.Receives event) (slot : Slot) :
    moment.gain? slot = event.gain? slot := by
  rcases received with ⟨isOpen, ⟨_, now, handles⟩ | ⟨rfl, leaves⟩⟩
  · simp [gain?, handles, isOpen]
  · simp [gain?, leaves]

/-- An open session does not refuse a placement of a seat. -/
theorem gain?_of_ignored (ignores : ∀ event, ¬moment.Receives event) :
    moment.gain? slot = none := by
  unfold gain?
  split
  case h_2 => rfl
  case h_1 event now handles =>
    cases isClosed : moment.before.closed with
    | true => rfl
    | false =>
        cases event with
        | cellsPlaced number piece cells scoreGained =>
            have apart : number ≠ slot.toServer := by
              rintro rfl
              refine ignores _ ⟨isClosed, .inl ⟨?_, now, handles⟩⟩
              have seat := Session.seatOf_eq_ok_iff.mpr slot.ofServer_toServer
              simp [answer, outcome, handles, Session.step, Session.handle, isClosed,
                Session.atSeat, seat, Session.Handled.applied]
            simp [apart]
        | _ => rfl

theorem not_setsScore (old : ¬moment.Renews slot) (untold : ∀ total, ¬moment.TellsScore slot total)
    (base : Nat) : ¬moment.SetsScore slot base := by
  rintro (⟨renews, _⟩ | told)
  · exact old renews
  · exact untold base told

theorem standingStep_of_received {standing : Standing} (received : moment.Receives event)
    (law : some standing = moment.before.shared.standingAfter slot event) :
    StandingStep moment slot standing := by
  have gain := received.gain?_eq slot
  have renews : moment.Renews slot ↔
      event.Seats slot ∨ event.StartsGame moment.before.turn.phase := received.exists_iff
  have tells (total : Nat) : moment.TellsScore slot total ↔ event.total? slot = some total :=
    received.exists_iff
  cases event with
  | roomJoined roomId players =>
      simp only [SharedView.standingAfter] at law
      split at law
      case isTrue listed =>
        cases law
        exact .renewed (renews.mpr (.inl listed)) (by simp [tells])
      case isFalse => cases law
  | playerJoined number userId displayName =>
      simp only [SharedView.standingAfter] at law
      split at law
      case isTrue own =>
        cases law
        exact .renewed (renews.mpr (.inl own)) (by simp [tells])
      case isFalse other =>
        refine .kept ?_ (by simp [tells]) gain law.symm
        simp [renews, other]
  | gameStarted =>
      rcases Option.map_eq_some_iff.mp law.symm with ⟨before, found, rfl⟩
      exact .renewed (renews.mpr (.inr trivial)) (by simp [tells])
  | turnChanged =>
      simp only [SharedView.standingAfter, Session.shared, Phase.stage_eq_waiting_iff] at law
      split at law
      case isTrue waiting =>
        rcases Option.map_eq_some_iff.mp law.symm with ⟨before, found, rfl⟩
        exact .renewed (renews.mpr (.inr waiting)) (by simp [tells])
      case isFalse running =>
        refine .kept ?_ (by simp [tells]) gain law.symm
        simp [renews, running]
  | scoresUpdated scores =>
      rcases Option.map_eq_some_iff.mp law.symm with ⟨before, found, rfl⟩
      have old : ¬moment.Renews slot := by
        simp [renews]
      simp only [ServerEvent.total?] at tells
      cases listed : scores.reverse.lookup slot.toServer with
      | none => exact .kept old (by simp [tells, listed]) gain found
      | some total => exact .told old (by simp [tells, listed]) gain found
  | cellsPlaced number piece cells scoreGained =>
      have old : ¬moment.Renews slot := by
        simp [renews]
      have untold : ∀ total, ¬moment.TellsScore slot total := by
        simp [tells]
      simp only [SharedView.standingAfter] at law
      simp only [ServerEvent.gain?] at gain
      split at law
      case isTrue own =>
        rcases Option.map_eq_some_iff.mp law.symm with ⟨before, found, rfl⟩
        exact .placed old untold (by simpa [own] using gain) found
      case isFalse other => exact .kept old untold (by simpa [other] using gain) law.symm
  | playerLeft =>
      simp only [SharedView.standingAfter] at law
      split at law
      case isTrue => cases law
      case isFalse =>
        refine .kept ?_ (by simp [tells]) gain law.symm
        simp [renews]
  | disconnected | roomLeft => cases law
  | playerReady | hostChanged | boardSnapshot | placementRejected | gameEnded =>
      refine .kept ?_ (by simp [tells]) gain law.symm
      simp [renews]

/-- One of the four things happens in every call after which a player is seated. -/
theorem standingStep (moment : Moment) {standing : Standing}
    (seated : moment.after.room.standing? slot = some standing) :
    StandingStep moment slot standing := by
  rcases moment.shared_cases with ⟨ignores, kept⟩ | ⟨event, received, isOpen, answer, changed⟩
  · have room : moment.after.room = moment.before.room := congrArg SharedView.room kept
    rw [room] at seated
    refine .kept ?_ ?_ (gain?_of_ignored ignores) seated
    · simp [Renews, ignores]
    · simp [TellsScore, ignores]
  · have law := SharedView.standing_receive slot isOpen answer
    have room : moment.after.room = _ := congrArg SharedView.room changed
    rw [← room, seated] at law
    exact standingStep_of_received received law

end Moment

/-! ## Runs -/

section Accounts

variable {past since : List Moment} {next : Moment} {slot : Slot}

theorem gains_snoc :
    gains (since ++ [next]) slot = gains since slot ++ (next.gain? slot).toList := by
  unfold gains
  rw [List.filterMap_append, List.filterMap_cons, List.filterMap_nil]
  cases next.gain? slot <;> rfl

theorem ScoreFollows.snoc {score : UInt32} (account : ScoreFollows past slot score)
    (unset : ∀ base, ¬next.SetsScore slot base) :
    ScoreFollows (past ++ [next]) slot (score + .ofNat ((next.gain? slot).getD 0)) := by
  rcases account with ⟨moment, since, last, follows⟩
  refine ⟨moment, since ++ [next], last.snoc (not_exists.mpr unset), fun base sets => ?_⟩
  have gained : (next.gain? slot).toList.sum = (next.gain? slot).getD 0 := by
    cases next.gain? slot <;> simp
  rw [gains_snoc, List.sum_append, gained, ← Nat.add_assoc]
  exact (follows base sets).add _

theorem PiecesFollow.snoc {remainingPieces : Nat} (account : PiecesFollow past slot remainingPieces)
    (old : ¬next.Renews slot) :
    PiecesFollow (past ++ [next]) slot (remainingPieces - (next.gain? slot).toList.length) := by
  rcases account with ⟨moment, since, last, rfl⟩
  refine ⟨moment, since ++ [next], last.snoc old, ?_⟩
  rw [gains_snoc, List.length_append, Nat.sub_sub]

theorem AccountedFor.snoc {standing : Standing}
    (accounts : ∀ before, next.before.room.standing? slot = some before →
      AccountedFor past slot before)
    (step : StandingStep next slot standing) : AccountedFor (past ++ [next]) slot standing := by
  cases step with
  | renewed renews untold =>
      refine ⟨⟨next, [], .of_property past ⟨0, .inl ⟨renews, rfl⟩⟩, fun base sets => ?_⟩,
        ⟨next, [], .of_property past renews, rfl⟩⟩
      rcases sets with ⟨_, rfl⟩ | told
      · exact .ofNat 0
      · exact absurd told (untold base)
  | @told before total old tells unplaced found =>
      have pieces := (accounts before found).remainingPieces.snoc old
      rw [unplaced] at pieces
      refine ⟨⟨next, [], .of_property past ⟨total, .inr ((tells total).mpr rfl)⟩,
        fun base sets => ?_⟩, pieces⟩
      rcases sets with ⟨renews, _⟩ | told
      · exact absurd renews old
      · cases (tells base).mp told
        exact .ofNat total
  | @placed before points old untold gains found =>
      have score := (accounts before found).score.snoc (Moment.not_setsScore old untold)
      have pieces := (accounts before found).remainingPieces.snoc old
      rw [gains] at score pieces
      exact ⟨score, pieces⟩
  | kept old untold unplaced found =>
      have score := (accounts standing found).score.snoc (Moment.not_setsScore old untold)
      have pieces := (accounts standing found).remainingPieces.snoc old
      rw [unplaced] at score pieces
      exact ⟨by simpa using score, pieces⟩

end Accounts

namespace Session

variable {roomId : String} {number : Int} {timing : Timing} {legality : LegalityRule}
  {session : Session} {slot : Slot} {player : Player}

theorem accountedFor_after (joined : join roomId number timing legality = .ok session)
    (calls : List Call) (slot : Slot) : ∀ standing,
      (session.after calls).room.standing? slot = some standing →
      AccountedFor (session.history calls) slot standing := by
  -- The past gives an account of whoever sits in the seat, and in the beginning nobody does.
  refine history_induction
    (fun past session => ∀ standing, session.room.standing? slot = some standing →
      AccountedFor past slot standing) ?_ ?_ calls
  · intro standing seated
    rcases of_join joined with ⟨own, _, rfl⟩
    simp at seated
  · intro past before call accounts standing seated
    exact .snoc accounts (Moment.standingStep ⟨before, call⟩ seated)

/-- Without a new start, a total or a placement for the seat an event changes nothing that a player
has reached. -/
theorem standing_kept (moment : Moment) {before later : Standing}
    (known : moment.before.room.standing? slot = some before)
    (reached : moment.after.room.standing? slot = some later)
    (unplaced : moment.gain? slot = none) :
    ((∀ base, ¬moment.SetsScore slot base) → later.score = before.score) ∧
    (¬moment.Renews slot → later.remainingPieces = before.remainingPieces) := by
  cases moment.standingStep reached with
  | renewed renews => exact ⟨fun unset => absurd (.inl ⟨renews, rfl⟩) (unset 0), absurd renews⟩
  | @told _ total _ tells _ found =>
      cases known.symm.trans found
      exact ⟨fun unset => absurd (.inr ((tells total).mpr rfl)) (unset total), fun _ => rfl⟩
  | placed _ _ gains => cases unplaced.symm.trans gains
  | kept _ _ _ found =>
      cases known.symm.trans found
      exact ⟨fun _ => rfl, fun _ => rfl⟩

/-- What is no event changes nothing that a player has reached. -/
theorem standing_of_inward (moment : Moment) {standing : Standing}
    (reached : moment.after.room.standing? slot = some standing)
    (inward : ∀ event now, moment.call ≠ .handle event now) :
    moment.before.room.standing? slot = some standing := by
  rcases moment.shared_cases with ⟨_, kept⟩ | ⟨event, received, isOpen, answer, changed⟩
  · have room : moment.after.room = moment.before.room := congrArg SharedView.room kept
    rwa [← room]
  · rcases received with ⟨_, ⟨_, now, handles⟩ | ⟨rfl, _⟩⟩
    · exact absurd handles (inward event now)
    · have law := SharedView.standing_receive slot isOpen answer
      rw [← changed] at law
      cases reached.symm.trans law

/-- In every run the score of a seated player is the value that has been set last with the points of
all placements since, and the remaining pieces are those of a new start less one for each placement
since. The score is set by a total of the server's and by a new start, which is when the player sits
down and when a game starts. No other event changes the score or the remaining pieces, and nothing
that is no event does. -/
theorem standing_accounted (joined : join roomId number timing legality = .ok session)
    (calls : List Call) (seated : (session.after calls).room.player? slot = some player) :
    AccountedFor (session.history calls) slot player.standing ∧
    ∀ call later, ((session.after calls).step call).session.room.player? slot = some later →
      ((∀ event now, call ≠ .handle event now) → later.standing = player.standing) ∧
      (Moment.gain? ⟨session.after calls, call⟩ slot = none →
        ((∀ base, ¬Moment.SetsScore ⟨session.after calls, call⟩ slot base) →
          later.score = player.score) ∧
        (¬Moment.Renews ⟨session.after calls, call⟩ slot →
          later.remainingPieces = player.remainingPieces)) := by
  have known := Room.standing?_of_player? seated
  refine ⟨accountedFor_after joined calls slot _ known, fun call later seatedAfter => ?_⟩
  have reached := Room.standing?_of_player? seatedAfter
  constructor
  · intro inward
    have unchanged := standing_of_inward ⟨session.after calls, call⟩ reached inward
    exact Option.some.inj (unchanged.symm.trans known)
  · exact standing_kept ⟨session.after calls, call⟩ known reached

/-- A game that begins with a turn. The totals of the server's count for a player, but not those
that come with one for a seat that does not exist. -/
def countedRun : List Call :=
  [.handle (.playerJoined 2 "ada" "Ada") 0,
    .handle (.cellsPlaced 2 none [⟨9, 9⟩] none) 1,
    .handle (.turnChanged 2 none (.ofBits 0x41f00000) false 1) 2,
    .handle (.cellsPlaced 2 (some .domino) [⟨0, 0⟩, ⟨0, 1⟩] none) 3,
    .handle (.scoresUpdated [(2, 7), (1, 3), (2, 9)]) 4,
    .handle (.cellsPlaced 2 none [⟨1, 0⟩] none) 5,
    .handle (.scoresUpdated [(2, 50), (9, 1)]) 6,
    .tick 7,
    .handle (.cellsPlaced 1 none [⟨5, 5⟩] none) 8,
    .handle (.cellsPlaced 2 (some .domino) [⟨2, 0⟩] (some 4)) 9]

theorem countedRun_accounted : ∃ session player,
    join "room" 1 .standard (.constant true) = .ok session ∧
    (session.after countedRun).room.player? ⟨1⟩ = some player ∧
    player.score = 14 ∧ player.remainingPieces = 18 ∧
    AccountedFor (session.history countedRun) ⟨1⟩ player.standing ∧
    ∀ later, ((session.after countedRun).step (.tick 10)).session.room.player? ⟨1⟩ = some later →
      later.standing = player.standing := by
  have joined : join "room" 1 .standard (.constant true) = .ok _ := rfl
  refine ⟨_, ⟨"ada", "Ada", false, true, 14, 18⟩, joined, by decide, rfl, rfl, ?_⟩
  have accounted := @standing_accounted _ _ _ _ _ ⟨1⟩ ⟨"ada", "Ada", false, true, 14, 18⟩ joined
    countedRun (by decide)
  refine ⟨accounted.1, fun later seatedAfter => ?_⟩
  exact (accounted.2 (.tick 10) later seatedAfter).1 (by simp)

end Session

end TileMatch
