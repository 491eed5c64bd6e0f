import TileMatch.Proofs.Room
import TileMatch.Proofs.Session.Reception

/-!
# Whether a game runs

The room and the turn clock both keep whether a game runs, and every event that starts or ends a
game tells both. A roster that is taken over does not: the room has no game from then on, whereas
the clock goes on with the turn, until the next game starts or the running one ends.
`Session.game_runs_iff` says that they differ for this reason only.

What an event does to the two of them is said once, in `SharedView.progress_receive`; the rest
follows from it.
-/

namespace TileMatch

namespace Session

/-- No game runs in a room that is taken over. -/
theorem started_of_roomOf {roomId : String} {players : List SeatEntry} {room : Room}
    (accepted : roomOf roomId players = .ok room) : room.started = false := by
  refine roomOf_induction (·.started = false) rfl ?_ ?_ accepted
  · exact fun room slot userId displayName ready idle => idle
  · exact fun room slot idle => (room.started_setHost slot).trans idle

end Session

namespace SharedView

variable (view : SharedView)

/-- Whether a game runs in the room, and the stage of the match. -/
def progress : Bool × Stage := (view.room.started, view.stage)

/-- What an accepted event makes of the progress. -/
def progressAfter (view : SharedView) : ServerEvent → Bool × Stage
  | .roomJoined _ _ => (false, view.stage)
  | .gameStarted => (true, .active)
  | .turnChanged _ _ _ _ _ => if view.stage = .waiting then (true, .active) else view.progress
  | .gameEnded winner => (false, .ended (Session.winnerOf winner))
  | .disconnected _ | .roomLeft => (false, .waiting)
  | _ => view.progress

theorem progress_turnChanged (slot : Slot) (number : Nat) :
    (view.turnChanged slot number).progress =
      if view.stage = .waiting then (true, .active) else view.progress := by
  unfold turnChanged progress
  cases stage : view.stage with
  | waiting => rfl
  | active => simp
  | ended => simp [stage]

variable {view}

theorem progress_receive {event : ServerEvent} (isOpen : view.closed = false)
    (answer : (view.receive event).2 = .ok ()) :
    (view.receive event).1.progress = view.progressAfter event := by
  have notClosed : ¬view.closed = true := by simp [isOpen]
  unfold receive at answer ⊢
  rw [if_neg notClosed] at answer ⊢
  cases event with
  | roomJoined roomId players =>
      dsimp only at answer ⊢
      split at answer
      case h_1 room accepted =>
        simp [progress, progressAfter, Session.started_of_roomOf accepted]
      case h_2 => cases answer
  | playerJoined | playerReady | cellsPlaced =>
      rcases atSeat_of_accepted answer with ⟨slot, _, applied⟩
      dsimp only
      rw [applied]
      rfl
  | playerLeft | hostChanged =>
      rcases atSeat_of_accepted answer with ⟨slot, _, applied⟩
      dsimp only
      rw [applied]
      simp [progress, progressAfter]
  | turnChanged =>
      rcases atSeat_of_accepted answer with ⟨slot, _, applied⟩
      dsimp only
      rw [applied]
      exact view.progress_turnChanged _ _
  | boardSnapshot | scoresUpdated =>
      dsimp only at answer ⊢
      split at answer
      case h_1 => simp [progress, progressAfter]
      case h_2 => cases answer
  | gameStarted | placementRejected | gameEnded | disconnected | roomLeft => rfl

/-- A game that runs in the room is one for the stage as well. -/
def IsSound (view : SharedView) : Prop := view.room.started = true → view.stage = .active

/-- The room and the stage agree on whether a game runs. -/
def IsInStep (view : SharedView) : Prop := view.room.started = true ↔ view.stage = .active

end SharedView

namespace Moment

/-- The call takes over a roster while a game runs. -/
def ReplacesRoster (moment : Moment) : Prop :=
  moment.before.turn.isActive = true ∧
    ∃ roomId players, moment.Receives (.roomJoined roomId players)

/-- The call starts a game or ends it, or it ends the session. -/
def BoundsGame (moment : Moment) : Prop :=
  moment.Receives .gameStarted ∨ (∃ winner, moment.Receives (.gameEnded winner)) ∨
    (∃ code, moment.Receives (.disconnected code)) ∨ moment.Receives .roomLeft

end Moment

namespace Session

variable {session : Session}

theorem isActive_iff : session.turn.isActive = true ↔ session.shared.stage = .active := by
  simp only [shared, TurnClock.isActive]
  cases session.turn.phase <;> simp [Phase.stage]

theorem isActive_of_current? {slot : Slot} (current : session.turn.current? = some slot) :
    session.turn.isActive = true := by
  simp only [TurnClock.current?, TurnClock.countdown?] at current
  split at current
  case h_1 active => simp [TurnClock.isActive, active]
  case h_2 => cases current

/-- Every call keeps a game of the room one for the clock. The two agree after it unless it takes
over a roster while a game runs, and otherwise if it starts or ends a game or they agreed before. -/
theorem inStep_moment_iff (moment : Moment) (sound : moment.before.shared.IsSound) :
    moment.after.shared.IsSound ∧ (moment.after.shared.IsInStep ↔
      ¬moment.ReplacesRoster ∧ (moment.BoundsGame ∨ moment.before.shared.IsInStep)) := by
  simp only [Moment.ReplacesRoster, Moment.BoundsGame, isActive_iff]
  rcases moment.shared_cases with ⟨ignores, kept⟩ | ⟨event, received, isOpen, answer, changed⟩
  · simp [ignores, kept, sound]
  · have progress := SharedView.progress_receive isOpen answer
    rw [← changed] at progress
    simp only [received.iff_eq]
    have started : moment.after.shared.room.started = _ := congrArg Prod.fst progress
    have stage : moment.after.shared.stage = _ := congrArg Prod.snd progress
    simp only [SharedView.IsSound, SharedView.IsInStep] at sound ⊢
    rw [started, stage]
    cases event with
    | roomJoined =>
        simp only [SharedView.progressAfter]
        have apart : ¬moment.before.shared.stage = .active →
            (moment.before.shared.room.started = true ↔ moment.before.shared.stage = .active) :=
          fun idle => iff_of_false (mt sound idle) idle
        simpa using apart
    | turnChanged =>
        simp only [SharedView.progressAfter]
        split
        case isTrue waiting =>
          have idle : moment.before.room.started = false := by simpa [waiting] using sound
          simp [waiting, idle]
        case isFalse => simpa [SharedView.progress] using sound
    | gameStarted | gameEnded | disconnected | roomLeft => simp [SharedView.progressAfter]
    | playerJoined | playerLeft | playerReady | hostChanged | boardSnapshot | cellsPlaced
    | placementRejected | scoresUpdated =>
        simpa [SharedView.progressAfter, SharedView.progress] using sound

/-! ## Runs -/

variable {roomId : String} {number : Int} {timing : Timing} {legality : LegalityRule}

theorem inStep_after_iff (joined : join roomId number timing legality = .ok session)
    (calls : List Call) : (session.after calls).shared.IsSound ∧
      ((session.after calls).shared.IsInStep ↔
        ¬Unmended Moment.ReplacesRoster Moment.BoundsGame (session.history calls)) := by
  refine history_induction
    (fun past session => session.shared.IsSound ∧ (session.shared.IsInStep ↔
      ¬Unmended Moment.ReplacesRoster Moment.BoundsGame past)) ?_ ?_ calls
  · rw [shared_of_join joined]
    refine ⟨fun started => ?_, iff_of_true ?_ Unmended.not_nil⟩
    · cases started
    · simp [SharedView.IsInStep, Room.empty]
  · rintro past before call ⟨sound, fact⟩
    have law := inStep_moment_iff ⟨before, call⟩ sound
    exact ⟨law.1, Unmended.fact_snoc_iff fact law.2⟩

/-- The room and the turn clock agree on whether a game runs, unless a roster has been taken over
while one ran and no game has started or ended since. Only then can it be the local player's turn
without a game running in the room. -/
theorem game_runs_iff (joined : join roomId number timing legality = .ok session)
    (calls : List Call) :
    (((session.after calls).room.started = true ↔ (session.after calls).turn.isActive = true) ↔
      ¬Unmended Moment.ReplacesRoster Moment.BoundsGame (session.history calls)) ∧
    (((session.after calls).turn.isLocalTurn = true ↔
        (session.after calls).room.started = true ∧
          (session.after calls).turn.current? = some session.localSlot) ↔
      ¬(Unmended Moment.ReplacesRoster Moment.BoundsGame (session.history calls) ∧
        (session.after calls).turn.current? = some session.localSlot)) := by
  have inStep := (inStep_after_iff joined calls).2
  have same := session.after_localSlot calls
  generalize session.after calls = later at inStep same ⊢
  have agree : (later.room.started = true ↔ later.turn.isActive = true) ↔
      ¬Unmended Moment.ReplacesRoster Moment.BoundsGame (session.history calls) := by
    rw [isActive_iff]
    exact inStep
  refine ⟨agree, ?_⟩
  have own : later.turn.isLocalTurn = true ↔ later.turn.current? = some session.localSlot := by
    rw [TurnClock.isLocalTurn, beq_iff_eq, ← same]
    rfl
  rw [own]
  by_cases current : later.turn.current? = some session.localSlot
  · have active := isActive_of_current? current
    simpa [current, active] using agree
  · simp [current]

/-- A turn, and then a roster with the local player in it. -/
def rosterDuringTurn : List Call :=
  [.handle (.turnChanged 1 none (.ofBits 0x41f00000) false 1) 0,
    .handle (.roomJoined "room" [⟨1, "user", "User", true, true⟩]) 1]

theorem game_runs_after_next_start : ∃ session,
    join "room" 1 .standard (.constant true) = .ok session ∧
    ¬Unmended Moment.ReplacesRoster Moment.BoundsGame
      (session.history (rosterDuringTurn ++ [.handle .gameStarted 2])) := by
  have joined : join "room" 1 .standard (.constant true) = .ok _ := rfl
  refine ⟨_, joined, ?_⟩
  exact (game_runs_iff joined (rosterDuringTurn ++ [.handle .gameStarted 2])).1.mp (by decide)

/-- It is still the local player's turn then, but no game runs in the room. -/
theorem turn_without_game : ∃ session,
    join "room" 1 .standard (.constant true) = .ok session ∧
    ¬((session.after rosterDuringTurn).room.started = true ↔
      (session.after rosterDuringTurn).turn.isActive = true) ∧
    ¬((session.after rosterDuringTurn).turn.isLocalTurn = true ↔
      (session.after rosterDuringTurn).room.started = true ∧
        (session.after rosterDuringTurn).turn.current? = some session.localSlot) := by
  exact ⟨_, rfl, by decide, by decide⟩

end Session

end TileMatch
