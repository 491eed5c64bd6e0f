import TileMatch.Proofs.Session.History

/-!
# The end of a session

A session is closed when the local player leaves, when the server says that the room is left, and
when the connection is lost, whatever is going on at that moment. All of it is given up: no tile, no
player, no turn, no placement and no request in flight is left (`Session.IsVacant`).

From then on the session is deaf. It never changes again and does nothing outside, so that a run of
it is the session itself without an effect (`Session.run_of_closed`), and each kind of call has one
answer (`Call.closedAnswer`).
-/

namespace TileMatch

namespace Call

/-- The call ends the session. -/
def IsClosing : Call → Prop
  | leave | handle .roomLeft _ | handle (.disconnected _) _ => True
  | _ => False

/-- What a closed session answers. -/
def closedAnswer : Call → Answer
  | handle _ _ => .handled (.ok ())
  | select _ _ _ | cancel => .input (.error .sessionClosed)
  | confirm _ => .confirmed (.error .sessionClosed)
  | requestResync _ => .requested false
  | tick _ | leave => .done

end Call

namespace Session

/-- A closed session of which nothing is left but the name of its room. -/
structure IsVacant (session : Session) (roomId : String) : Prop where
  closed : session.closed = true
  noTile : ∀ cell, session.grid.owner cell = .empty
  noBaseline : session.board.baseline = none
  noKey : session.ledger.size = 0
  noPlacement : session.prediction = .idle
  waiting : session.turn.phase = .waiting
  noTurn : session.turn.current? = none
  noDeadline : session.turn.deadline? = none
  noGame : session.room.started = false
  noPlayer : ∀ slot, session.room.player? slot = none
  sameRoom : session.room.roomId = roomId

variable {session : Session}

theorem isVacant_teardown (session : Session) :
    session.teardown.1.IsVacant session.room.roomId where
  closed := rfl
  noTile := Grid.owner_empty
  noBaseline := rfl
  noKey := rfl
  noPlacement := rfl
  waiting := rfl
  noTurn := rfl
  noDeadline := rfl
  noGame := rfl
  noPlayer := fun slot => by simp [teardown, Room.player?, Room.empty]
  sameRoom := rfl

theorem step_of_isClosing (isOpen : session.closed = false) {call : Call}
    (closing : call.IsClosing) : (session.step call).session = session.teardown.1 := by
  have notClosed : ¬session.closed = true := by simp [isOpen]
  cases call with
  | leave => simp only [step, leave, if_neg notClosed]
  | handle event now =>
      cases event with
      | roomLeft | disconnected => simp only [step, handle, if_neg notClosed]; rfl
      | _ => exact closing.elim
  | _ => exact closing.elim

theorem answer_of_closed (isClosed : session.closed = true) (call : Call) :
    (session.step call).answer = call.closedAnswer := by
  cases call <;>
    simp [step, handle, Handled.applied, select, confirm, cancel, requestResync, isClosed,
      Call.closedAnswer]

theorem run_of_closed (isClosed : session.closed = true) (calls : List Call) :
    session.run calls = (session, []) := by
  induction calls with
  | nil => rfl
  | cons call rest hypothesis =>
      rcases step_of_closed isClosed call with ⟨kept, silent⟩
      simp only [run, kept, silent, hypothesis]
      rfl

theorem answer_of_mem_history (isClosed : session.closed = true) {calls : List Call}
    {moment : Moment} (moment_mem : moment ∈ session.history calls) :
    moment.answer = moment.call.closedAnswer := by
  induction calls with
  | nil => exact absurd moment_mem List.not_mem_nil
  | cons call rest hypothesis =>
      simp only [history, (step_of_closed isClosed call).1, List.mem_cons] at moment_mem
      rcases moment_mem with rfl | later
      · exact answer_of_closed isClosed call
      · exact hypothesis later

/-- Whatever a session is doing, leaving the room, word that it is left and the loss of the
connection close it and leave nothing but the name of the room. No later call changes it, sends
anything or tells anyone anything, and each gets the answer of a closed session. -/
theorem closing_is_complete_and_final (isOpen : session.closed = false) {closing : Call}
    (closes : closing.IsClosing) :
    (session.step closing).session.IsVacant session.room.roomId ∧
    ∀ further,
      (session.step closing).session.run further = ((session.step closing).session, []) ∧
      ∀ moment ∈ (session.step closing).session.history further,
        moment.answer = moment.call.closedAnswer := by
  have vacant : (session.step closing).session.IsVacant session.room.roomId := by
    rw [step_of_isClosing isOpen closes]
    exact session.isVacant_teardown
  refine ⟨vacant, ?_⟩
  intro further
  refine ⟨run_of_closed vacant.closed further, ?_⟩
  intro moment moment_mem
  exact answer_of_mem_history vacant.closed moment_mem

/-- A run after which the local turn has expired while a placement waits, and a pass and a request
for a snapshot are in flight beside it. -/
def busyTurn : List Call :=
  [.handle (.playerJoined 1 "user" "User") 0,
    .handle (.turnChanged 1 none (.ofBits 0x41f00000) false 1) 1,
    .handle (.cellsPlaced 2 none [⟨4, 4⟩] none) 2,
    .select ⟨.single, .none, .none⟩ ⟨0, 0⟩ 3, .confirm 4, .tick (Duration.ofSeconds 31),
    .requestResync (Duration.ofSeconds 31)]

theorem closing_of_busy_turn : ∃ session,
    join "room" 1 ⟨.ofSeconds 5, .ofSeconds 100, .ofSeconds 30⟩ (.constant true) = .ok session ∧
    (session.after busyTurn).ledger.size = 3 ∧ (session.after busyTurn).closed = false ∧
    let final := ((session.after busyTurn).step
      (.handle (.disconnected "TIMEOUT") (Duration.ofSeconds 32))).session
    final.IsVacant "room" ∧
      final.run [.tick (Duration.ofSeconds 40), .handle .gameStarted 0, .confirm 1] =
        (final, []) := by
  have closes : Call.IsClosing (.handle (.disconnected "TIMEOUT") (Duration.ofSeconds 32)) :=
    trivial
  refine ⟨_, rfl, by decide +kernel, ?isOpen,
    (closing_is_complete_and_final ?isOpen closes).1,
    ((closing_is_complete_and_final ?isOpen closes).2 _).1⟩
  case isOpen => decide +kernel

end Session

end TileMatch
