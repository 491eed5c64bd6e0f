import TileMatch.Proofs.Session.Agreement
import TileMatch.Proofs.Session.History

/-!
# What a call receives

Of all the calls of a session only those that receive an event change the shared view, and they
change it as the event alone says. So a fact about the shared view depends on the events that have
been received, and needs to be looked at event by event only: `Moment.shared_cases`.

A roster that is taken over is a room in which players have been seated one after the other;
`Session.roomOf_induction` carries facts over from the empty room to it.
-/

namespace TileMatch

namespace SharedView

variable {view : SharedView} {event : ServerEvent}

/-- A refused event leaves the shared view as it is. -/
theorem receive_of_refused {error : SyncError} (refused : (view.receive event).2 = .error error) :
    (view.receive event).1 = view := by
  unfold receive atSeat at refused ⊢
  split at refused
  case isTrue => cases refused
  case isFalse notClosed =>
    rw [if_neg notClosed]
    cases event with
    | roomJoined | playerJoined | playerLeft | playerReady | hostChanged | turnChanged
    | boardSnapshot | cellsPlaced | scoresUpdated =>
        dsimp only at refused ⊢
        split at refused
        case h_1 => cases refused
        case h_2 => rfl
    | _ => cases refused

theorem atSeat_of_accepted {number : Int} {change : Slot → SharedView}
    (accepted : (view.atSeat number change).2 = .ok ()) : ∃ slot,
      Slot.ofServer number = .ok slot ∧ view.atSeat number change = (change slot, .ok ()) := by
  unfold atSeat at accepted ⊢
  split at accepted
  case h_1 slot seat => exact ⟨slot, Session.seatOf_eq_ok_iff.mp seat, rfl⟩
  case h_2 => cases accepted

end SharedView

namespace Moment

variable {moment : Moment} {event other : ServerEvent}

/-- A call receives one event at most. -/
theorem Receives.unique (received : moment.Receives event) (also : moment.Receives other) :
    event = other := by
  rcases received with ⟨_, ⟨_, now, handles⟩ | ⟨rfl, leaves⟩⟩
  · rcases also with ⟨_, ⟨_, later, same⟩ | ⟨rfl, leaves⟩⟩
    · cases handles.symm.trans same
      rfl
    · cases handles.symm.trans leaves
  · rcases also with ⟨_, ⟨_, later, handles⟩ | ⟨rfl, _⟩⟩
    · cases leaves.symm.trans handles
    · rfl

theorem Receives.iff_eq (received : moment.Receives event) :
    moment.Receives other ↔ event = other :=
  ⟨received.unique, fun same => same ▸ received⟩

/-- A call receives nothing and leaves the shared view as it is, or it receives an event that the
shared view accepts, and changes the view as the event says. -/
theorem shared_cases (moment : Moment) :
    ((∀ event, ¬moment.Receives event) ∧ moment.after.shared = moment.before.shared) ∨
    ∃ event, moment.Receives event ∧ moment.before.closed = false ∧
      (moment.before.shared.receive event).2 = .ok () ∧
      moment.after.shared = (moment.before.shared.receive event).1 := by
  rcases moment with ⟨session, call⟩
  have changed := session.shared_step call
  cases isClosed : session.closed with
  | true =>
      left
      refine ⟨fun event received => ?_, ?_⟩
      · cases isClosed.symm.trans received.1
      · exact congrArg Session.shared (Session.step_of_closed isClosed call).1
  | false =>
      cases call with
      | handle event now =>
          have answered : (session.handle event now).answer = (session.shared.receive event).2 :=
            congrArg Prod.snd (session.shared_handle now event)
          cases answer : (session.shared.receive event).2 with
          | ok =>
              right
              refine ⟨event, ⟨isClosed, .inl ⟨?_, now, rfl⟩⟩, rfl, answer, changed⟩
              exact congrArg Answer.handled (answered.trans answer)
          | error error =>
              left
              refine ⟨?_, changed.trans (SharedView.receive_of_refused answer)⟩
              rintro other ⟨_, ⟨handled, _⟩ | ⟨_, leaves⟩⟩
              · cases (congrArg Answer.handled (answered.trans answer)).symm.trans handled
              · cases leaves
      | leave =>
          right
          refine ⟨.roomLeft, ⟨isClosed, .inr ⟨rfl, rfl⟩⟩, rfl, ?_, changed⟩
          simp [SharedView.receive, Session.shared, isClosed]
      | _ =>
          left
          refine ⟨?_, changed⟩
          rintro event ⟨_, ⟨_, now, handles⟩ | ⟨_, leaves⟩⟩
          · cases handles
          · cases leaves

end Moment

namespace Session

variable (property : Room → Prop)

theorem seatEntries_induction {entries : List SeatEntry} {room seated : Room}
    {host last : Option Slot} (start : property room)
    (seats : ∀ room slot userId displayName ready, property room →
      property ((room.seat slot userId displayName).setReady slot ready))
    (accepted : seatEntries room host entries = .ok (seated, last)) : property seated := by
  induction entries generalizing room host with
  | nil =>
      cases accepted
      exact start
  | cons entry rest hypothesis =>
      simp only [seatEntries] at accepted
      split at accepted
      case h_1 => cases accepted
      case h_2 slot _ => exact hypothesis (seats _ _ _ _ _ start) accepted

/-- What holds of the empty room, and goes on to hold when a player is seated or named host, holds
of a roster that is taken over. -/
theorem roomOf_induction {roomId : String} {players : List SeatEntry} {room : Room}
    (start : property (.empty roomId))
    (seats : ∀ room slot userId displayName ready, property room →
      property ((room.seat slot userId displayName).setReady slot ready))
    (names : ∀ room slot, property room → property (room.setHost slot))
    (accepted : roomOf roomId players = .ok room) : property room := by
  unfold roomOf at accepted
  split at accepted
  case h_1 => cases accepted
  case h_2 seated found =>
    cases accepted
    exact seatEntries_induction property start seats found
  case h_3 seated host found =>
    cases accepted
    exact names _ _ (seatEntries_induction property start seats found)

end Session

end TileMatch
