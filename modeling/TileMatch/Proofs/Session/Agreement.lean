import TileMatch.Proofs.Session.Returning
import TileMatch.Session.Audience

/-!
# Agreement of the clients of one match

The `SharedView` of a session is what all clients of a match have in common: the room, the board
with its baseline, the stage of the match, whose turn it is with its number, and whether the session
is closed. Events change it by a function of its own, `SharedView.receive`, which knows nothing of
the local seat, of clocks, of the placement or of requests in flight, and everything else that can
be done in a hall but leaving does not change it at all. So what has been received decides it, and
two clients that have received the same events agree.

What clients do not have in common is how long keys last and how late it is. So an event may make
one of them panic and not the other (`Hall.TakeAlike`).
-/

namespace TileMatch

/-- The stages of a match without the countdown. -/
inductive Stage where
  | waiting
  | active
  | ended (winner : Option Slot)
  deriving DecidableEq, Repr

namespace Phase

/-- The stage of a match in a phase. -/
def stage : Phase → Stage
  | waiting => .waiting
  | active _ => .active
  | ended winner => .ended winner

end Phase

/-- What all clients of a match have in common. -/
structure SharedView where
  room : Room
  board : Reconciler
  stage : Stage
  current : Option Slot
  number : Nat
  closed : Bool

namespace SharedView

/-- Whose turn it is changes, unless the game has ended. -/
def turnChanged (view : SharedView) (slot : Slot) (number : Nat) : SharedView :=
  match view.stage with
  | .ended _ => view
  | .active => { view with current := some slot, number }
  | .waiting =>
    { view with room := view.room.startGame, stage := .active, current := some slot, number }

/-- Everything is given up. -/
def closing (view : SharedView) : SharedView :=
  ⟨.empty view.room.roomId, .start, .waiting, none, 0, true⟩

/-- Changes the view for a seat, if there is such a seat. -/
def atSeat (view : SharedView) (number : Int) (change : Slot → SharedView) :
    SharedView × Except SyncError Unit :=
  match Session.seatOf number with
  | .ok slot => (change slot, .ok ())
  | .error error => (view, .error error)

/-- What an event does to the view, and the answer to it. -/
def receive (view : SharedView) (event : ServerEvent) : SharedView × Except SyncError Unit :=
  if view.closed then (view, .ok ())
  else match event with
  | .roomJoined roomId players =>
    match Session.roomOf roomId players with
    | .ok room => ({ view with room }, .ok ())
    | .error error => (view, .error error)
  | .playerJoined number userId displayName =>
    view.atSeat number fun slot => { view with room := view.room.seat slot userId displayName }
  | .playerLeft number => view.atSeat number fun slot => { view with room := view.room.remove slot }
  | .playerReady number ready =>
    view.atSeat number fun slot => { view with room := view.room.setReady slot ready }
  | .hostChanged number =>
    view.atSeat number fun slot => { view with room := view.room.setHost slot }
  | .gameStarted =>
    ({ view with
        room := view.room.startGame, board := .start, stage := .active, current := none,
        number := 0 },
      .ok ())
  | .turnChanged number _ _ _ turnNumber =>
    view.atSeat number fun slot => view.turnChanged slot turnNumber
  | .boardSnapshot rows =>
    match Snapshot.decode rows >>= view.board.applySnapshot with
    | .ok (board, _) => ({ view with board }, .ok ())
    | .error error => (view, .error (.ofBoardError error))
  | .cellsPlaced number piece cells scoreGained =>
    view.atSeat number fun slot =>
      { view with
        board := (view.board.applyCells (cells.map fun position => (position, .owned slot))).1
        room := view.room.recordPlacement slot (Session.pointsFor piece cells scoreGained) }
  | .placementRejected _ => (view, .ok ())
  | .scoresUpdated scores =>
    match Session.scoresOf scores with
    | .ok scores => ({ view with room := view.room.applyScores scores }, .ok ())
    | .error error => (view, .error error)
  | .gameEnded winner =>
    ({ view with
        room := view.room.endGame, stage := .ended (Session.winnerOf winner), current := none },
      .ok ())
  | .disconnected _ | .roomLeft => (view.closing, .ok ())

end SharedView

namespace Session

/-- What the session has in common with the other clients of the match. -/
def shared (session : Session) : SharedView :=
  ⟨session.room, session.board, session.turn.phase.stage, session.turn.current?,
    session.turn.number, session.closed⟩

variable (session : Session) (now : Instant)

@[simp]
theorem shared_room : session.shared.room = session.room := rfl

@[simp]
theorem shared_board : session.shared.board = session.board := rfl

theorem shared_atSeat {number : Int} {apply : Slot → Session × List Effect}
    {change : Slot → SharedView} (applied : ∀ slot, (apply slot).1.shared = change slot) :
    ((session.atSeat number apply).session.shared, (session.atSeat number apply).answer) =
      session.shared.atSeat number change := by
  unfold atSeat SharedView.atSeat
  cases seatOf number with
  | ok slot => simp only [Handled.applied, applied]
  | error => rfl

theorem shared_turnChanged (change : TurnClock.Change) :
    (session.turnChanged change now).1.shared =
      session.shared.turnChanged change.slot change.number := by
  rw [turnChanged_fst]
  simp only [shared, SharedView.turnChanged]
  cases phase : session.turn.phase with
  | ended winner => simp [TurnClock.change_of_ended phase, phase, Phase.stage]
  | waiting | active =>
      simp [TurnClock.change, phase, Phase.stage, TurnClock.current?, TurnClock.countdown?,
        TurnClock.Change.countdown]

theorem shared_boardSnapshot (rows : List (List Int)) :
    ((session.boardSnapshot rows now).session.shared, (session.boardSnapshot rows now).answer) =
      match Snapshot.decode rows >>= session.board.applySnapshot with
      | .ok (board, _) => ({ session.shared with board }, .ok ())
      | .error error => (session.shared, .error (.ofBoardError error)) := by
  simp only [boardSnapshot]
  cases Snapshot.decode rows >>= session.board.applySnapshot with
  | ok result => rfl
  | error error =>
      simp only [askForSnapshot]
      split <;> rfl

/-- Handling an event changes the shared view as the view alone decides. -/
theorem shared_handle (event : ServerEvent) :
    ((session.handle event now).session.shared, (session.handle event now).answer) =
      session.shared.receive event := by
  cases isClosed : session.closed with
  | true => simp [handle, SharedView.receive, Handled.applied, shared, isClosed]
  | false =>
      have notClosed : ¬session.closed = true := by simp [isClosed]
      have viewNotClosed : ¬session.shared.closed = true := notClosed
      simp only [handle, SharedView.receive, if_neg notClosed, if_neg viewNotClosed]
      cases event with
      | roomJoined roomId players =>
          simp only [roomJoined]
          cases roomOf roomId players with
          | ok room => rfl
          | error => rfl
      | playerJoined | playerLeft | playerReady | hostChanged =>
          exact session.shared_atSeat fun _ => rfl
      | gameStarted => rfl
      | turnChanged =>
          exact session.shared_atSeat fun slot => session.shared_turnChanged now _
      | boardSnapshot rows => exact session.shared_boardSnapshot now rows
      | cellsPlaced => exact session.shared_atSeat fun _ => rfl
      | placementRejected => rfl
      | scoresUpdated scores =>
          simp only [scoresUpdated]
          cases scoresOf scores with
          | ok totals => rfl
          | error => rfl
      | gameEnded => rfl
      | disconnected => rfl
      | roomLeft => rfl

theorem shared_tick :
    shared { session with turn := (session.turn.tick now).1 } = session.shared := by
  simp only [shared]
  unfold TurnClock.tick
  split
  case h_1 countdown active =>
    simp [active, Phase.stage, TurnClock.current?, TurnClock.countdown?]
  case h_2 => rfl

/-- What the local player and the clock do changes nothing that is shared. -/
theorem shared_step_of_local {call : Call} (inward : ∀ event now, call ≠ .handle event now)
    (stays : call ≠ .leave) : (session.step call).session.shared = session.shared := by
  cases isClosed : session.closed with
  | true => rw [(step_of_closed isClosed call).1]
  | false =>
      have stepped := stepped_of_isOpen isClosed call
      generalize session.step call = outcome at stepped ⊢
      cases stepped with
      | ticked now swept ran =>
          rw [obeyAll_frame, ran]
          exact session.shared_tick now
      | left => exact absurd rfl stays
      | selected | selectRefused | confirmed | confirmStale | confirmRefused | cancelled
      | cancelRefused | asked | notAsked => rfl
      | _ => exact absurd rfl (inward _ _)

/-- What every call does to the shared view: leaving is like being told that the room is left, and
only events count beside it. -/
theorem shared_step (call : Call) : (session.step call).session.shared =
    match call with
    | .handle event _ => (session.shared.receive event).1
    | .leave => (session.shared.receive .roomLeft).1
    | _ => session.shared := by
  cases call with
  | handle event now => exact congrArg Prod.fst (session.shared_handle now event)
  | leave =>
      refine Eq.trans ?_ (congrArg Prod.fst (session.shared_handle 0 .roomLeft))
      simp only [step, leave, handle]
      split <;> rfl
  | _ => exact session.shared_step_of_local (by simp) (by simp)

/-- Two clients agree: they have the same board with the same baseline, the same room, the same
stage and turn, and the turn is the local one for at most one of two seats. -/
structure Agrees (first second : Session) : Prop where
  board : first.board = second.board
  room : first.room = second.room
  stage : first.turn.phase.stage = second.turn.phase.stage
  current : first.turn.current? = second.turn.current?
  number : first.turn.number = second.turn.number
  closed : first.closed = second.closed
  exclusive : first.localSlot ≠ second.localSlot →
    ¬(first.turn.isLocalTurn = true ∧ second.turn.isLocalTurn = true)

theorem agrees_of_shared_eq {first second : Session} (same : first.shared = second.shared) :
    first.Agrees second := by
  simp only [shared, SharedView.mk.injEq] at same
  rcases same with ⟨room, board, stage, current, number, closed⟩
  refine ⟨board, room, stage, current, number, closed, ?_⟩
  rintro apart ⟨firstLocal, secondLocal⟩
  simp only [TurnClock.isLocalTurn, beq_iff_eq] at firstLocal secondLocal
  rw [firstLocal, secondLocal, Option.some.injEq] at current
  exact apart current

/-- Which snapshots are refused is shared. -/
theorem refusesBoard_iff_of_shared_eq {first second : Session} (same : first.shared = second.shared)
    (event : ServerEvent) : first.RefusesBoard event ↔ second.RefusesBoard event := by
  simp only [shared, SharedView.mk.injEq] at same
  simp only [RefusesBoard, same.2.1, same.2.2.2.2.2]

/-- Which events make a score outgrow its width is shared. -/
theorem outgrows_eq_of_shared_eq {first second : Session} (same : first.shared = second.shared)
    (event : ServerEvent) (firstNow secondNow : Instant) :
    first.outgrows (.handle event firstNow) = second.outgrows (.handle event secondNow) := by
  simp only [shared, SharedView.mk.injEq] at same
  cases event <;> simp only [outgrows, same.1, same.2.2.2.2.2]

theorem shared_of_join {roomId : String} {number : Int} {timing : Timing} {legality : LegalityRule}
    {session : Session} (joined : join roomId number timing legality = .ok session) :
    session.shared = ⟨.empty roomId, .start, .waiting, none, 0, false⟩ := by
  rcases of_join joined with ⟨slot, _, rfl⟩
  rfl

end Session

/-- The event that a call of the hall handles, if it handles one. -/
def HallCall.event? : HallCall → Option ServerEvent
  | session (.handle event _) => some event
  | _ => none

namespace Hall

/-- The hall after a list of calls. -/
def after (hall : Hall) (calls : List HallCall) : Hall :=
  calls.foldl (fun hall call => (hall.step call).hall) hall

theorem shared_step (hall : Hall) {call : HallCall} (stays : call ≠ .session .leave) :
    (hall.step call).hall.session.shared =
      match call.event? with
      | some event => (hall.session.shared.receive event).1
      | none => hall.session.shared := by
  cases call with
  | register => rfl
  | unregister => rfl
  | session call =>
      cases call with
      | handle event now => exact congrArg Prod.fst (hall.session.shared_handle now event)
      | leave => exact absurd rfl stays
      | _ => exact hall.session.shared_step_of_local (by simp) (by simp)

/-- The events that a hall has handled decide the shared view. -/
theorem shared_after (hall : Hall) {calls : List HallCall} (stays : .session .leave ∉ calls) :
    (hall.after calls).session.shared =
      (calls.filterMap HallCall.event?).foldl (fun view event => (view.receive event).1)
        hall.session.shared := by
  induction calls generalizing hall with
  | nil => rfl
  | cons call rest hypothesis =>
      simp only [List.mem_cons, not_or] at stays
      have later := hypothesis (hall.step call).hall stays.2
      rw [hall.shared_step (Ne.symm stays.1)] at later
      refine later.trans ?_
      rw [List.filterMap_cons]
      cases call.event? with
      | none => rfl
      | some event => rfl

/-- Keys last in every hall of a run as long as they did in the first. -/
theorem lifetime_after (hall : Hall) (calls : List HallCall) :
    (hall.after calls).session.ledger.lifetime = hall.session.ledger.lifetime := by
  induction calls generalizing hall with
  | nil => rfl
  | cons call rest hypothesis =>
      refine (hypothesis (hall.step call).hall).trans ?_
      cases call with
      | register | unregister => rfl
      | session call => exact hall.session.step_lifetime call

/-- Two clients take an event alike, each at its own time: they give the same answer and agree. One
of them panics instead if it would ask for a snapshot anew while its clock ends within its lifetime
of keys, and both do if a score is checked that outgrows its width. -/
structure TakeAlike (first second : Hall) (firstLifetime secondLifetime : Duration)
    (event : ServerEvent) (firstNow secondNow : Instant) : Prop where
  answer : (first.step (.session (.handle event firstNow))).answer =
    (second.step (.session (.handle event secondNow))).answer
  agrees : (first.step (.session (.handle event firstNow))).hall.session.Agrees
    (second.step (.session (.handle event secondNow))).hall.session
  refuses_iff : first.session.RefusesBoard event ↔ second.session.RefusesBoard event
  outgrows_eq : first.session.outgrows (.handle event firstNow) =
    second.session.outgrows (.handle event secondNow)
  first_panics_iff (arithmetic : Arithmetic) :
    first.session.call? arithmetic (.handle event firstNow) = none ↔
      (first.session.RefusesBoard event ∧ Instant.limit ≤ firstNow + firstLifetime) ∨
      (arithmetic = .checked ∧ first.session.outgrows (.handle event firstNow) = true)
  second_panics_iff (arithmetic : Arithmetic) :
    second.session.call? arithmetic (.handle event secondNow) = none ↔
      (second.session.RefusesBoard event ∧ Instant.limit ≤ secondNow + secondLifetime) ∨
      (arithmetic = .checked ∧ second.session.outgrows (.handle event secondNow) = true)

theorem takeAlike_of_shared_eq {first second : Hall}
    (same : first.session.shared = second.session.shared) (event : ServerEvent)
    (firstNow secondNow : Instant) :
    first.TakeAlike second first.session.ledger.lifetime second.session.ledger.lifetime event
      firstNow secondNow := by
  have firstHandled := first.session.shared_handle firstNow event
  have secondHandled := second.session.shared_handle secondNow event
  rw [same] at firstHandled
  rcases Prod.mk.inj (firstHandled.trans secondHandled.symm) with ⟨sameView, sameAnswer⟩
  constructor
  case answer => exact congrArg (fun answer => HallAnswer.session (.handled answer)) sameAnswer
  case agrees => exact Session.agrees_of_shared_eq sameView
  case refuses_iff => exact Session.refusesBoard_iff_of_shared_eq same event
  case outgrows_eq => exact Session.outgrows_eq_of_shared_eq same event firstNow secondNow
  case first_panics_iff | second_panics_iff =>
    intro arithmetic
    exact Session.call?_handle_eq_none_iff

/-- Two clients of one room that have handled the same events and have not left agree, whatever
their seats, settings, rules and observers are and whatever their players and clocks have done in
the meantime; and they take the next event alike. But how long keys last may be such that a snapshot
makes one of them panic and not the other. -/
theorem agree_of_same_events {roomId : String} {firstNumber secondNumber : Int}
    {firstTiming secondTiming : Timing} {firstRule secondRule : LegalityRule} {first second : Hall}
    (firstJoined : Session.join roomId firstNumber firstTiming firstRule = .ok first.session)
    (secondJoined : Session.join roomId secondNumber secondTiming secondRule = .ok second.session)
    {firstCalls secondCalls : List HallCall} (firstStays : .session .leave ∉ firstCalls)
    (secondStays : .session .leave ∉ secondCalls)
    (sameEvents :
      firstCalls.filterMap HallCall.event? = secondCalls.filterMap HallCall.event?) :
    (first.after firstCalls).session.Agrees (second.after secondCalls).session ∧
    ∀ event firstNow secondNow, (first.after firstCalls).TakeAlike (second.after secondCalls)
      firstTiming.lifetime secondTiming.lifetime event firstNow secondNow := by
  have same :
      (first.after firstCalls).session.shared = (second.after secondCalls).session.shared := by
    rw [first.shared_after firstStays, second.shared_after secondStays, sameEvents,
      Session.shared_of_join firstJoined, Session.shared_of_join secondJoined]
  refine ⟨Session.agrees_of_shared_eq same, ?_⟩
  intro event firstNow secondNow
  have alike := takeAlike_of_shared_eq same event firstNow secondNow
  rwa [lifetime_after, lifetime_after, Session.lifetime_of_join firstJoined,
    Session.lifetime_of_join secondJoined] at alike

theorem agree_after_first_turn : ∃ first second : Hall,
    Session.join "room" 1 .standard (.constant true) = .ok first.session ∧
    Session.join "room" 2 ⟨0, 0, 0⟩ .occupancy = .ok second.session ∧
    (first.after [.register false,
      .session (.handle (.turnChanged 1 none (.ofBits 0x41f00000) false 1) 0),
      .session (.tick (Duration.ofSeconds 30))]).session.Agrees
    (second.after [.session (.requestResync 5),
      .session (.handle (.turnChanged 1 none (.ofBits 0x41f00000) false 1) 9),
      .session (.confirm 4)]).session := by
  have firstJoined : Session.join "room" 1 .standard (.constant true) =
      .ok (Hall.mk _ .empty).session := rfl
  have secondJoined : Session.join "room" 2 ⟨0, 0, 0⟩ .occupancy =
      .ok (Hall.mk _ ⟨[⟨3, true⟩], 4⟩).session := rfl
  refine ⟨_, _, firstJoined, secondJoined, ?_⟩
  refine (agree_of_same_events firstJoined secondJoined ?_ ?_ ?_).1
  · decide
  · decide
  · rfl

/-- A snapshot without rows makes a client panic whose keys last beyond the end of the clock, and is
refused by another one that has handled the same events. -/
theorem disagree_on_unending_keys : ∃ settings, ∃ first second : Hall,
    Settings.ofText? "(game: (dedup_ttl_seconds: 1e19))" = some settings ∧
    Session.join "room" 1 settings.game.timing .occupancy = .ok first.session ∧
    Session.join "room" 1 .standard .occupancy = .ok second.session ∧
    ∀ arithmetic, first.session.call? arithmetic (.handle (.boardSnapshot []) 0) = none ∧
      ∃ outcome error, second.session.call? arithmetic (.handle (.boardSnapshot []) 0) =
        some outcome ∧ outcome.answer = .handled (.error error) := by
  rcases Settings.unending_accepted with ⟨settings, accepted, timing⟩
  refine ⟨settings, ?_⟩
  rw [timing]
  refine ⟨⟨_, .empty⟩, ⟨_, .empty⟩, accepted, rfl, rfl, fun arithmetic => ⟨?_, ?_⟩⟩
  · exact Session.call?_eq_none_of_outlasts (by decide +kernel) arithmetic
  · refine ⟨_, _, Session.call?_eq_some_of_ne_none ?_, rfl⟩
    rw [Ne, Session.call?_handle_eq_none_iff]
    rintro (beyond | wide)
    · exact absurd beyond.2 (by decide)
    · exact absurd wide.2 (by decide)

end Hall

end TileMatch
