import TileMatch.Proofs.Room
import TileMatch.Proofs.Session.Reception

/-!
# The host of the room of a session

The events of the server make the calls of a room, so what is true of the host of a room carries
over to a session. A roster that is taken over has a host as well: it is seated in a room where no
game runs.
-/

namespace TileMatch

namespace Moment

/-- The call seats a player in the empty room of a running game. -/
def OrphansRoom (moment : Moment) : Prop :=
  moment.before.room.started = true ∧ moment.before.room.count = 0 ∧
    ∃ number userId displayName, moment.Receives (.playerJoined number userId displayName)

/-- The call takes over a roster, seats a player while no game runs, names a host, or leaves the
room empty. -/
def MendsRoom (moment : Moment) : Prop :=
  (∃ roomId players, moment.Receives (.roomJoined roomId players)) ∨
  (moment.before.room.started = false ∧
    ∃ number userId displayName, moment.Receives (.playerJoined number userId displayName)) ∨
  (∃ number slot, moment.Receives (.hostChanged number) ∧ Slot.ofServer number = .ok slot ∧
    (moment.before.room.player? slot).isSome = true) ∨
  moment.after.room.count = 0

end Moment

/-- An event that takes over a roster, seats a player or names a host. -/
def ServerEvent.MakesHost : ServerEvent → Prop
  | roomJoined _ _ | playerJoined _ _ _ | hostChanged _ => True
  | _ => False

namespace Session

/-! ## Calls -/

theorem isHosted_of_roomOf {roomId : String} {players : List SeatEntry} {room : Room}
    (accepted : roomOf roomId players = .ok room) : room.IsHosted := by
  -- That no game runs has to be carried along, since seating depends on it.
  refine (roomOf_induction (fun room => room.started = false ∧ room.IsHosted)
    ⟨rfl, ?_⟩ ?_ ?_ accepted).2
  · exact Room.isHosted_of_count_eq_zero (Room.count_empty roomId)
  · rintro room slot userId displayName ready ⟨idle, hosted⟩
    refine ⟨idle, ?_⟩
    rw [Room.isHosted_congr (Room.hostFlag_setReady slot ready), Room.isHosted_seat_iff]
    exact .inl idle
  · rintro room slot ⟨idle, hosted⟩
    rw [Room.started_setHost, Room.isHosted_setHost_iff]
    exact ⟨idle, .inr (.inr hosted)⟩

theorem hostFlag_turnChanged (view : SharedView) (seat : Slot) (number : Nat) (slot : Slot) :
    (view.turnChanged seat number).room.hostFlag slot = view.room.hostFlag slot := by
  unfold SharedView.turnChanged
  split <;> simp

/-- Where no roster is taken over, nobody sits down and no host is named, all that counts is whether
the room is left empty. -/
theorem isHosted_receive_iff (view : SharedView) {event : ServerEvent}
    (other : ¬event.MakesHost) : (view.receive event).1.room.IsHosted ↔
      (view.receive event).1.room.count = 0 ∨ view.room.IsHosted := by
  unfold SharedView.receive SharedView.atSeat
  split
  · exact view.room.isHosted_iff_of_kept fun _ => rfl
  · cases event with
    | roomJoined | playerJoined | hostChanged => exact absurd trivial other
    | playerLeft number =>
        dsimp only
        split
        · exact view.room.isHosted_remove_iff _
        · exact view.room.isHosted_iff_of_kept fun _ => rfl
    | turnChanged number turnTime remaining previousTimedOut turnNumber =>
        dsimp only
        split
        · exact view.room.isHosted_iff_of_kept (hostFlag_turnChanged view _ _)
        · exact view.room.isHosted_iff_of_kept fun _ => rfl
    | playerReady | cellsPlaced | scoresUpdated =>
        dsimp only
        split <;> exact view.room.isHosted_iff_of_kept (by simp)
    | boardSnapshot =>
        dsimp only
        split <;> exact view.room.isHosted_iff_of_kept fun _ => rfl
    | placementRejected => exact view.room.isHosted_iff_of_kept fun _ => rfl
    | gameStarted | gameEnded => exact view.room.isHosted_iff_of_kept (by simp)
    | disconnected | roomLeft =>
        have vacant : view.closing.room.count = 0 := Room.count_empty _
        exact iff_of_true (Room.isHosted_of_count_eq_zero vacant) (.inl vacant)

/-- After every call there is a host if there are players, unless the call seats a player in the
empty room of a running game, and otherwise if it mends the lack of a host or there was none. -/
theorem isHosted_moment_iff (moment : Moment) : moment.after.room.IsHosted ↔
    ¬moment.OrphansRoom ∧ (moment.MendsRoom ∨ moment.before.room.IsHosted) := by
  simp only [Moment.OrphansRoom, Moment.MendsRoom]
  rcases moment.shared_cases with ⟨ignores, kept⟩ | ⟨event, received, isOpen, answer, changed⟩
  · have room : moment.after.room = moment.before.room := congrArg SharedView.room kept
    simp only [ignores, room]
    rw [moment.before.room.isHosted_iff_of_kept fun _ => rfl]
    simp
  · have room : moment.after.room = _ := congrArg SharedView.room changed
    have notClosed : ¬moment.before.shared.closed = true := by simp [shared, isOpen]
    simp only [received.iff_eq]
    by_cases makes : event.MakesHost
    · cases event with
      | roomJoined roomId players =>
          simp only [SharedView.receive, if_neg notClosed] at answer room
          split at answer
          case h_1 seated accepted =>
            simp only [accepted] at room
            simp [room, isHosted_of_roomOf accepted]
          case h_2 => cases answer
      | playerJoined number userId displayName =>
          simp only [SharedView.receive, if_neg notClosed] at answer room
          rcases SharedView.atSeat_of_accepted answer with ⟨slot, _, applied⟩
          have law := moment.before.room.isHosted_seat_iff slot userId displayName
          have occupied := moment.before.room.count_seat_ne_zero slot userId displayName
          rw [applied, shared_room] at room
          rw [room, law]
          cases moment.before.room.started <;> simp [occupied]
      | hostChanged number =>
          simp only [SharedView.receive, if_neg notClosed] at answer room
          rcases SharedView.atSeat_of_accepted answer with ⟨slot, seat, applied⟩
          rw [applied, shared_room] at room
          rw [room, Room.isHosted_setHost_iff]
          simp [seat, or_assoc]
      | _ => exact makes.elim
    · have noRoster : ∀ roomId players, event ≠ .roomJoined roomId players := by
        rintro _ _ rfl
        exact makes trivial
      have noPlayer : ∀ number userId displayName,
          event ≠ .playerJoined number userId displayName := by
        rintro _ _ _ rfl
        exact makes trivial
      have noHost : ∀ number, event ≠ .hostChanged number := by
        rintro _ rfl
        exact makes trivial
      have law := isHosted_receive_iff moment.before.shared makes
      rw [← room, shared_room] at law
      simp [noRoster, noPlayer, noHost, law]

/-! ## Runs -/

variable {roomId : String} {number : Int} {timing : Timing} {legality : LegalityRule}
  {session : Session}

/-- After every run there is a host if there are players, unless a player has been seated in the
empty room of a running game and nothing has mended that since. -/
theorem isHosted_after_iff (joined : join roomId number timing legality = .ok session)
    (calls : List Call) : (session.after calls).room.IsHosted ↔
      ¬Unmended Moment.OrphansRoom Moment.MendsRoom (session.history calls) := by
  have start : session.room.IsHosted := by
    rcases of_join joined with ⟨slot, _, rfl⟩
    exact Room.isHosted_of_count_eq_zero (Room.count_empty roomId)
  refine history_induction
    (fun past session => session.room.IsHosted ↔
      ¬Unmended Moment.OrphansRoom Moment.MendsRoom past)
    (iff_of_true start Unmended.not_nil) ?_ calls
  intro past before call fact
  exact Unmended.fact_snoc_iff fact (isHosted_moment_iff ⟨before, call⟩)

/-- While no game runs, a room with players has a host, unless a player has been seated in the empty
room of a running game and nothing has mended that since. So it is with every new room, whatever is
done to it, and with the room of every session. -/
theorem host_while_idle_iff (joined : join roomId number timing legality = .ok session) :
    (∀ newId calls, ((Room.empty newId).after calls).IsHostedWhileIdle ↔
      (((Room.empty newId).after calls).started = false →
        ¬Unmended RoomMoment.Orphans RoomMoment.Mends ((Room.empty newId).history calls))) ∧
    ∀ calls, (session.after calls).room.IsHostedWhileIdle ↔
      ((session.after calls).room.started = false →
        ¬Unmended Moment.OrphansRoom Moment.MendsRoom (session.history calls)) := by
  refine ⟨fun newId calls => ?_, fun calls => ?_⟩
  · exact imp_congr_right fun _ => Room.isHosted_after_iff newId calls
  · exact imp_congr_right fun _ => isHosted_after_iff joined calls

theorem host_while_idle_after_mending : ∃ session,
    join "room" 1 .standard (.constant true) = .ok session ∧
    ¬Unmended RoomMoment.Orphans RoomMoment.Mends
      ((Room.empty "room").history [.startGame, .seat ⟨0⟩ "user" "User", .setHost ⟨0⟩, .endGame]) ∧
    ¬Unmended Moment.OrphansRoom Moment.MendsRoom
      (session.history [.handle .gameStarted 0, .handle (.playerJoined 1 "user" "User") 1,
        .handle (.hostChanged 1) 2, .handle (.gameEnded none) 3]) := by
  have joined : join "room" 1 .standard (.constant true) = .ok _ := rfl
  refine ⟨_, joined, ?_, ?_⟩
  · exact ((host_while_idle_iff joined).1 "room" _).mp (by decide) (by decide)
  · exact ((host_while_idle_iff joined).2 _).mp (by decide) (by decide)

/-- Who sits down in the empty room of a running game is not host when the game is over either. -/
theorem no_host_after_game :
    ¬((Room.empty "room").after [.startGame, .seat ⟨0⟩ "user" "User", .endGame]).IsHostedWhileIdle ∧
    ∃ session, join "room" 1 .standard (.constant true) = .ok session ∧
      ¬(session.after [.handle .gameStarted 0, .handle (.playerJoined 1 "user" "User") 1,
        .handle (.gameEnded none) 2]).room.IsHostedWhileIdle := by
  exact ⟨by decide, _, rfl, by decide⟩

end Session

end TileMatch
