import TileMatch.Proofs.Board.Repeating
import TileMatch.Proofs.Room.Repeating
import TileMatch.Proofs.Session.KeysInFlight
import TileMatch.Proofs.Session.Picture

/-!
# Events that arrive twice

An event that is handled twice in a row at the same moment finds nothing left to do the second time.
The changes of the room and of the board are such that the same change again is none
(`Room.seat_seat` and its siblings, `Reconciler.InStep.step_again`). What is released or given up is
gone already, and what is begun again begins at the same moment. The exception is a placement, which
counts once more for the room; and of the board not even a placement redraws anything.

A refused placement needs the history: with no placement to wait for it releases every key of one,
and that there is none left is a fact about the sessions that can be reached (`KeysInStep`).
-/

namespace TileMatch

/-- The seat whose placement the event reports, if it reports one. -/
def ServerEvent.placer? : ServerEvent → Option Slot
  | cellsPlaced number _ _ _ => (Session.seatOf number).toOption
  | _ => none

theorem ServerEvent.isUniform_of_boardCall? {event : ServerEvent} {boardCall : BoardCall}
    (made : event.boardCall? = some boardCall) : boardCall.IsUniform := by
  cases event with
  | gameStarted =>
      cases made
      exact .reset
  | boardSnapshot rows =>
      rcases Option.map_eq_some_iff.mp made with ⟨owners, _, rfl⟩
      exact .snapshot owners
  | cellsPlaced number piece cells =>
      rcases Option.map_eq_some_iff.mp made with ⟨slot, _, rfl⟩
      exact .update cells (.owned slot)
  | _ => cases made

namespace Session

variable {session : Session}

theorem handle_of_closed (isClosed : session.closed = true) (event : ServerEvent) (now : Instant) :
    session.handle event now = .applied (session, []) := if_pos isClosed

/-- Nothing is redrawn when an event arrives again. -/
theorem redrawn_again (isOpen : session.closed = false) (inStep : session.board.InStep)
    (event : ServerEvent) (now : Instant) :
    Effect.redrawn ((session.handle event now).session.handle event now).effects = [] := by
  cases isClosed : (session.handle event now).session.closed with
  | true =>
      rw [handle_of_closed isClosed]
      rfl
  | false =>
      have first := drawsAs_handle isOpen event now
      have second := drawsAs_handle isClosed event now
      cases made : event.boardCall? with
      | none => exact second.quiet made
      | some boardCall =>
          have again := second.draws boardCall made
          rw [inStep.step_again (ServerEvent.isUniform_of_boardCall? made)
            (first.draws boardCall made)] at again
          exact (Except.ok.inj (congrArg Prod.snd again)).symm

/-! ## Events about the room -/

/-- In every open session the event makes this change to the room, and no other. -/
def ChangesRoomBy (event : ServerEvent) (change : Room → Room) : Prop :=
  ∀ (session : Session) (now : Instant), ¬session.closed = true →
    (session.handle event now).session = { session with room := change session.room }

theorem exists_changesRoomBy_of_atSeat {event : ServerEvent} {number : Int}
    (change : Slot → Room → Room)
    (settles : ∀ slot room, change slot (change slot room) = change slot room)
    (handled : ∀ (session : Session) (now : Instant), ¬session.closed = true →
      session.handle event now =
        session.atSeat number fun slot => session.withRoom (change slot session.room)) :
    ∃ change, ChangesRoomBy event change ∧ ∀ room, change (change room) = change room := by
  cases seat : seatOf number with
  | error error =>
      refine ⟨id, fun session now notClosed => ?_, fun _ => rfl⟩
      simp only [handled session now notClosed, atSeat, seat]
      rfl
  | ok slot =>
      refine ⟨change slot, fun session now notClosed => ?_, settles slot⟩
      simp only [handled session now notClosed, atSeat, seat]
      rfl

/-- An event about the room makes a change that does nothing the second time. An event that is
dropped leaves every room as it is. -/
theorem exists_changesRoomBy {event : ServerEvent} (aboutRoom : event.IsAboutRoom) :
    ∃ change, ChangesRoomBy event change ∧ ∀ room, change (change room) = change room := by
  cases event with
  | roomJoined roomId players =>
      cases read : roomOf roomId players with
      | error error =>
          refine ⟨id, fun session now notClosed => ?_, fun _ => rfl⟩
          simp only [handle, if_neg notClosed, roomJoined, read]
          rfl
      | ok room =>
          refine ⟨fun _ => room, fun session now notClosed => ?_, fun _ => rfl⟩
          simp only [handle, if_neg notClosed, roomJoined, read]
          rfl
  | playerJoined number userId displayName =>
      exact exists_changesRoomBy_of_atSeat (fun slot room => room.seat slot userId displayName)
        (fun slot room => room.seat_seat slot userId displayName)
        fun session now notClosed => if_neg notClosed
  | playerLeft number =>
      exact exists_changesRoomBy_of_atSeat (fun slot room => room.remove slot)
        (fun slot room => room.remove_remove slot) fun session now notClosed => if_neg notClosed
  | playerReady number ready =>
      exact exists_changesRoomBy_of_atSeat (fun slot room => room.setReady slot ready)
        (fun slot room => room.setReady_setReady slot ready)
        fun session now notClosed => if_neg notClosed
  | hostChanged number =>
      exact exists_changesRoomBy_of_atSeat (fun slot room => room.setHost slot)
        (fun slot room => room.setHost_setHost slot) fun session now notClosed => if_neg notClosed
  | scoresUpdated scores =>
      cases read : scoresOf scores with
      | error error =>
          refine ⟨id, fun session now notClosed => ?_, fun _ => rfl⟩
          simp only [handle, if_neg notClosed, scoresUpdated, read]
          rfl
      | ok totals =>
          refine ⟨(·.applyScores totals), fun session now notClosed => ?_,
            (·.applyScores_applyScores totals)⟩
          simp only [handle, if_neg notClosed, scoresUpdated, read]
          rfl
  | _ => exact aboutRoom.elim

/-! ## Events about the match -/

theorem gameStarted_again (session : Session) :
    session.gameStarted.1.gameStarted.1 = session.gameStarted.1 := by
  simp only [gameStarted, Room.startGame_startGame]
  rfl

theorem gameEnded_again (session : Session) (winner : Option Slot) :
    ((session.gameEnded winner).1.gameEnded winner).1 = (session.gameEnded winner).1 := by
  simp only [gameEnded, Room.endGame_endGame]
  rfl

@[simp]
theorem turnChanged_defaultTurn (session : Session) (change : TurnClock.Change) (now : Instant) :
    (session.turnChanged change now).1.defaultTurn = session.defaultTurn := by
  rw [turnChanged_fst]

/-- A placement that was given up leaves none to give up, and the pass has been released already. -/
theorem turnChanged_again (session : Session) (change : TurnClock.Change) (now : Instant) :
    ((session.turnChanged change now).1.turnChanged change now).1 =
      (session.turnChanged change now).1 := by
  have first := session.turnChanged_fst now change
  have sameSeat : (session.turnChanged change now).1.localSlot = session.localSlot := by
    rw [first]
    exact session.turn.change_localSlot now change
  have running : (session.turnChanged change now).1.turn.phase ≠ .waiting := by
    rw [first]
    exact session.turn.change_phase_ne_waiting change now
  have turn : ((session.turnChanged change now).1.turn.change change now).1 =
      (session.turnChanged change now).1.turn := by
    rw [first]
    exact session.turn.change_change change now
  have gaveUp : (session.turnChanged change now).1.prediction.confirmedKey? = none := by
    rw [first]
    dsimp only
    split <;> cases session.prediction <;> rfl
  have prediction : (if change.slot = (session.turnChanged change now).1.localSlot
        then (session.turnChanged change now).1.prediction.afterTurnChange
        else (session.turnChanged change now).1.prediction.afterTurnChange.afterTurnLost) =
      (session.turnChanged change now).1.prediction := by
    rw [sameSeat, first]
    dsimp only
    split <;> cases session.prediction <;> rfl
  have ledger : (session.turnChanged change now).1.ledger.release
        (.pass (session.turnChanged change now).1.localSlot) =
      (session.turnChanged change now).1.ledger := by
    rw [sameSeat]
    exact Ledger.release_of_not_holds not_holds_pass_turnChanged
  generalize (session.turnChanged change now).1 = after at *
  rw [turnChanged_fst, if_neg running, turn, prediction, gaveUp, ledger]

theorem boardSnapshot_again (inStep : session.board.InStep) (rows : List (List Int))
    (now : Instant) :
    ((session.boardSnapshot rows now).session.boardSnapshot rows now).session =
      (session.boardSnapshot rows now).session := by
  cases answer : Snapshot.decode rows >>= session.board.applySnapshot with
  | ok result =>
      rcases result with ⟨board, changes⟩
      have again : Snapshot.decode rows >>= board.applySnapshot = .ok (board, []) := by
        cases decoded : Snapshot.decode rows with
        | error => simp [decoded, bind, Except.bind] at answer
        | ok owners =>
            rw [decoded] at answer
            exact Reconciler.step_snapshot_eq_ok_iff.mp (inStep.step_again (.snapshot owners)
              (Reconciler.step_snapshot_eq_ok_iff.mpr answer))
      have released : (session.ledger.release (.resync session.localSlot)).release
          (.resync session.localSlot) = session.ledger.release (.resync session.localSlot) :=
        Ledger.release_of_not_holds Ledger.holds_release_self
      rw [session.boardSnapshot_of_accepted now answer]
      dsimp only [Handled.applied]
      rw [boardSnapshot_of_accepted _ now again]
      exact congrArg (fun ledger => { session with board, ledger }) released
  | error error =>
      -- The request that the first refusal has sent is answered by the second, and sent again.
      have asked : ((session.ledger.release (.resync session.localSlot)).hold
            (.resync session.localSlot) (now + session.ledger.lifetime)).release
          (.resync session.localSlot) = session.ledger.release (.resync session.localSlot) :=
        Ledger.release_hold Ledger.holds_release_self _
      have again := boardSnapshot_of_refused
        { session with
          ledger := (session.ledger.release (.resync session.localSlot)).hold
            (.resync session.localSlot) (now + session.ledger.lifetime) } now answer
      rw [session.boardSnapshot_of_refused now answer]
      dsimp only
      rw [again]
      exact congrArg (fun ledger => { session with
        ledger := ledger.hold (.resync session.localSlot) (now + session.ledger.lifetime) }) asked

/-- The first refusal has left no key of a placement. -/
theorem placementRejected_again (reason : RejectionReason)
    (keys : (session.placementRejected reason).1.KeysInStep) :
    ((session.placementRejected reason).1.placementRejected reason).1 =
      (session.placementRejected reason).1 := by
  have settled : (session.placementRejected reason).1.ledger.releaseAll .placement
      session.localSlot = (session.placementRejected reason).1.ledger :=
    Ledger.releaseAll_of_not_holds fun key kind _ => keys.not_holds_placement rfl kind
  exact congrArg (fun ledger => { (session.placementRejected reason).1 with ledger }) settled

/-- A placement that is reported again counts again for the room, and that is all. -/
theorem cellsPlaced_again (inStep : session.board.InStep) (slot : Slot) (cells : List Position)
    (gained : Nat) :
    ((session.cellsPlaced slot cells gained).1.cellsPlaced slot cells gained).1 =
      { (session.cellsPlaced slot cells gained).1 with
        room := (session.cellsPlaced slot cells gained).1.room.recordPlacement slot gained } := by
  have stepped := congrArg Prod.fst (inStep.step_again (.update cells (.owned slot)) rfl)
  have board : ((session.cellsPlaced slot cells gained).1.board.applyCells
      (cells.map fun position => (position, .owned slot))).1 =
        (session.cellsPlaced slot cells gained).1.board := stepped
  have ledger : (if slot = session.localSlot
        then (session.cellsPlaced slot cells gained).1.ledger.releaseAll .placement
          session.localSlot
        else (session.cellsPlaced slot cells gained).1.ledger) =
      (session.cellsPlaced slot cells gained).1.ledger := by
    split
    case isTrue own =>
      apply Ledger.releaseAll_of_not_holds
      intro key kind seat
      simp only [cellsPlaced, if_pos own]
      exact Ledger.not_holds_releaseAll kind seat
    case isFalse => rfl
  have again : ((session.cellsPlaced slot cells gained).1.cellsPlaced slot cells gained).1 =
      { (session.cellsPlaced slot cells gained).1 with
        board := ((session.cellsPlaced slot cells gained).1.board.applyCells
          (cells.map fun position => (position, .owned slot))).1
        room := (session.cellsPlaced slot cells gained).1.room.recordPlacement slot gained
        ledger := if slot = session.localSlot
          then (session.cellsPlaced slot cells gained).1.ledger.releaseAll .placement
            session.localSlot
          else (session.cellsPlaced slot cells gained).1.ledger } := rfl
  rw [again, board, ledger]

/-! ## Every event -/

/-- Of an event that is handled in the same way in every open session it is enough to look at the
second time, and only if the first has not closed the session. -/
theorem handle_again_of_body {event : ServerEvent} {now : Instant} (body : Session → Handled)
    (handled : ∀ session : Session, ¬session.closed = true →
      session.handle event now = body session)
    (isOpen : session.closed = false)
    (again : (body session).session.closed = false →
      (body (body session).session).session = (body session).session) :
    ((session.handle event now).session.handle event now).session =
      (session.handle event now).session := by
  rw [handled session (by simp [isOpen])]
  cases isClosed : (body session).session.closed with
  | true =>
      rw [handle_of_closed isClosed]
      rfl
  | false =>
      rw [handled _ (by simp [isClosed])]
      exact again isClosed

theorem handle_again_of_isAboutRoom (isOpen : session.closed = false) {event : ServerEvent}
    (aboutRoom : event.IsAboutRoom) (now : Instant) :
    ((session.handle event now).session.handle event now).session =
      (session.handle event now).session := by
  have notClosed : ¬session.closed = true := by simp [isOpen]
  rcases exists_changesRoomBy aboutRoom with ⟨change, changes, settles⟩
  rw [changes session now notClosed,
    changes { session with room := change session.room } now notClosed]
  exact congrArg (fun room => { session with room }) (settles session.room)

/-- Handled again, an event that reports no placement leaves the session as it is. -/
theorem handle_again (isOpen : session.closed = false) (inStep : session.board.InStep)
    (keys : session.KeysInStep) {event : ServerEvent} (noPlacement : event.placer? = none)
    (now : Instant) :
    ((session.handle event now).session.handle event now).session =
      (session.handle event now).session := by
  by_cases aboutRoom : event.IsAboutRoom
  · exact handle_again_of_isAboutRoom isOpen aboutRoom now
  cases event with
  | roomJoined | playerJoined | playerLeft | playerReady | hostChanged | scoresUpdated =>
      exact absurd trivial aboutRoom
  | gameStarted =>
      exact handle_again_of_body (fun session => .applied session.gameStarted)
        (fun _ notClosed => if_neg notClosed) isOpen fun _ => session.gameStarted_again
  | turnChanged number turnTime remaining previousTimedOut turnNumber =>
      refine handle_again_of_body (fun session => session.atSeat number fun slot =>
          session.turnChanged
            { slot
              duration := (turnTime.map Duration.ofSingle).getD session.defaultTurn
              remaining := Duration.ofSingle remaining
              previousTimedOut
              number := turnNumber }
            now)
        (fun _ notClosed => if_neg notClosed) isOpen fun _ => ?_
      simp only [atSeat]
      cases seatOf number with
      | error error => rfl
      | ok slot =>
          dsimp only [Handled.applied]
          rw [turnChanged_defaultTurn]
          exact session.turnChanged_again _ now
  | boardSnapshot rows =>
      exact handle_again_of_body (fun session => session.boardSnapshot rows now)
        (fun _ notClosed => if_neg notClosed) isOpen fun _ => boardSnapshot_again inStep rows now
  | cellsPlaced number piece cells scoreGained =>
      refine handle_again_of_body (fun session => session.atSeat number fun slot =>
          session.cellsPlaced slot cells (pointsFor piece cells scoreGained))
        (fun _ notClosed => if_neg notClosed) isOpen fun _ => ?_
      simp only [atSeat]
      cases seat : seatOf number with
      | error error => rfl
      | ok slot => simp [ServerEvent.placer?, seat, Except.toOption] at noPlacement
  | placementRejected code =>
      have keysAfter : (session.handle (.placementRejected code) now).session.KeysInStep :=
        keys.step (.handle (.placementRejected code) now)
      have handled : session.handle (.placementRejected code) now =
          .applied (session.placementRejected (.ofCode code)) := if_neg (by simp [isOpen])
      rw [handled] at keysAfter
      exact handle_again_of_body
        (fun session => .applied (session.placementRejected (.ofCode code)))
        (fun _ notClosed => if_neg notClosed) isOpen
        fun _ => placementRejected_again (.ofCode code) keysAfter
  | gameEnded winner =>
      exact handle_again_of_body (fun session => .applied (session.gameEnded (winnerOf winner)))
        (fun _ notClosed => if_neg notClosed) isOpen fun _ => session.gameEnded_again _
  | disconnected code =>
      refine handle_again_of_body (fun session => .applied (session.disconnected (.ofCode code)))
        (fun _ notClosed => if_neg notClosed) isOpen fun stillOpen => ?_
      cases stillOpen
  | roomLeft =>
      refine handle_again_of_body (fun session => .applied session.teardown)
        (fun _ notClosed => if_neg notClosed) isOpen fun stillOpen => ?_
      cases stillOpen

/-- Handled again, a placement changes the standing of the seat that has placed and nothing
else. -/
theorem handle_placement_again (isOpen : session.closed = false) (inStep : session.board.InStep)
    {event : ServerEvent} {slot : Slot} (placed : event.placer? = some slot) (now : Instant) :
    ((session.handle event now).session.handle event now).session =
        { (session.handle event now).session with
          room := ((session.handle event now).session.handle event now).session.room } ∧
      Room.SameButStanding slot ((session.handle event now).session.handle event now).session.room
        (session.handle event now).session.room := by
  cases event with
  | cellsPlaced number piece cells scoreGained =>
      cases seat : seatOf number with
      | error error => simp [ServerEvent.placer?, seat, Except.toOption] at placed
      | ok other =>
          simp only [ServerEvent.placer?, seat, Except.toOption, Option.some.injEq] at placed
          subst placed
          have handled (session : Session) (notClosed : ¬session.closed = true) :
              session.handle (.cellsPlaced number piece cells scoreGained) now =
                .applied (session.cellsPlaced other cells (pointsFor piece cells scoreGained)) := by
            simp only [handle, if_neg notClosed, atSeat, seat]
          have notClosed : ¬session.closed = true := by simp [isOpen]
          rw [handled session notClosed]
          dsimp only [Handled.applied]
          rw [handled
            (session.cellsPlaced other cells (pointsFor piece cells scoreGained)).1 notClosed]
          dsimp only [Handled.applied]
          rw [cellsPlaced_again inStep]
          exact ⟨rfl, Room.sameButStanding_recordPlacement _ _ _⟩
  | _ => cases placed

theorem cell_notMem_of_redrawn {effects : List Effect} (nothing : Effect.redrawn effects = [])
    (position : Position) (owner : CellOwner) : .tell (.cell position owner) ∉ effects := by
  intro told
  have drawn : ⟨position, owner⟩ ∈ Effect.redrawn effects := by
    apply List.mem_filterMap.mpr
    exact ⟨_, List.mem_filterMap.mpr ⟨_, told, rfl⟩, rfl⟩
  rw [nothing] at drawn
  exact List.not_mem_nil drawn

/-- In every state that a session which joined a room can reach, an event that is handled twice in a
row at one moment leaves the session as it is after the first time, unless it reports a placement:
then the score and the remaining pieces of the seat that has placed may differ, and nothing else.
The second time no square is redrawn. -/
theorem redelivery_changes_standing_only {roomId : String} {number : Int} {timing : Timing}
    {legality : LegalityRule} (joined : join roomId number timing legality = .ok session)
    (calls : List Call) (event : ServerEvent) (now : Instant) :
    let first := (session.after calls).handle event now
    let second := first.session.handle event now
    (event.placer? = none → second.session = first.session) ∧
    (∀ slot, event.placer? = some slot →
      second.session = { first.session with room := second.session.room } ∧
        Room.SameButStanding slot second.session.room first.session.room) ∧
    ∀ position owner, .tell (.cell position owner) ∉ second.effects := by
  intro first second
  cases isClosed : (session.after calls).closed with
  | true =>
      have ignored : first = .applied (session.after calls, []) :=
        handle_of_closed isClosed event now
      have again : second = .applied (session.after calls, []) := by
        simp only [second, ignored]
        exact handle_of_closed isClosed event now
      rw [again, ignored]
      refine ⟨fun _ => rfl, fun slot _ => ⟨rfl, ?_⟩, fun _ _ => List.not_mem_nil⟩
      exact ⟨rfl, rfl, fun _ _ => rfl, rfl⟩
  | false =>
      have keys := KeysInStep.after_join joined calls
      have inStep := (pictureInStep_after joined calls isClosed).inStep
      refine ⟨?_, ?_, ?_⟩
      · exact fun noPlacement => handle_again isClosed inStep keys noPlacement now
      · exact fun slot placed => handle_placement_again isClosed inStep placed now
      · exact cell_notMem_of_redrawn (redrawn_again isClosed inStep event now)

/-- A placement that waits for the server. -/
def awaitedPlacement : List Call :=
  [.handle (.playerJoined 1 "user" "User") 0,
    .handle (.turnChanged 1 none (.ofBits 0x41f00000) false 1) 1,
    .select ⟨.single, .none, .none⟩ ⟨0, 0⟩ 2, .confirm 3]

/-- A report of it that names its square twice. -/
def doubledReport : ServerEvent := .cellsPlaced 1 none [⟨0, 0⟩, ⟨0, 0⟩] none

theorem redelivery_of_answers : ∃ session,
    join "room" 1 .standard (.constant true) = .ok session ∧
    (((session.after awaitedPlacement).handle (.placementRejected "overlap") 4).session.handle
        (.placementRejected "overlap") 4).session =
      ((session.after awaitedPlacement).handle (.placementRejected "overlap") 4).session ∧
    Room.SameButStanding ⟨0⟩
      (((session.after awaitedPlacement).handle doubledReport 4).session.handle
        doubledReport 4).session.room
      ((session.after awaitedPlacement).handle doubledReport 4).session.room := by
  have joined : join "room" 1 .standard (.constant true) = .ok _ := rfl
  refine ⟨_, joined, ?_, ?_⟩
  · exact (redelivery_changes_standing_only joined awaitedPlacement
      (.placementRejected "overlap") 4).1 rfl
  · exact ((redelivery_changes_standing_only joined awaitedPlacement doubledReport 4).2.1 ⟨0⟩
      rfl).2

end Session

end TileMatch
