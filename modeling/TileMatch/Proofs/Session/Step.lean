import TileMatch.Proofs.Ledger
import TileMatch.Proofs.Turn
import TileMatch.Session.Call

/-!
# What one call can do

`Session.Stepped` lists, for a session that is open, everything that a call can lead to: the
session afterwards, the effects and the answer, with the conditions under which each happens.
Whatever a call preserves or sends is proved by cases on it, so that no later argument unfolds the
handling of an event.

The signals of the clock are treated first. Acting on them touches the prediction and the ledger
alone, and those of a turn change touch nothing.
-/

namespace TileMatch

namespace TurnSignal

/-- A signal that is only passed on to the observers. -/
def IsShown : TurnSignal → Prop
  | display _ _ | previousTimedOut _ => True
  | localExpired | desync _ => False

end TurnSignal

namespace ServerEvent

/-- An event that is about the roster and nothing else. -/
def IsAboutRoom : ServerEvent → Prop
  | roomJoined _ _ | playerJoined _ _ _ | playerLeft _ | playerReady _ _ | hostChanged _
  | scoresUpdated _ => True
  | _ => False

end ServerEvent

theorem TurnClock.isShown_of_mem_change {clock : TurnClock} {change : TurnClock.Change}
    {now : Instant} {signal : TurnSignal} (signal_mem : signal ∈ (clock.change change now).2) :
    signal.IsShown := by
  unfold TurnClock.change at signal_mem
  split at signal_mem
  case h_1 => exact absurd signal_mem List.not_mem_nil
  case h_2 =>
    rcases List.mem_append.mp signal_mem with timedOut_mem | display_mem
    · split at timedOut_mem
      · rw [List.mem_singleton.mp timedOut_mem]
        trivial
      · exact absurd timedOut_mem List.not_mem_nil
    · rw [List.mem_singleton.mp display_mem]
      trivial

namespace Effect

variable {request : OutboundRequest}

@[simp]
theorem request?_tell (event : UiEvent) : request? (tell event) = none := rfl

@[simp]
theorem request?_send : request? (send request) = some request := rfl

theorem filterMap_request?_eq_nil {effects : List Effect}
    (silent : ∀ request, send request ∉ effects) : effects.filterMap request? = [] := by
  rw [List.filterMap_eq_nil_iff]
  intro effect effect_mem
  cases effect with
  | tell => rfl
  | send request => exact absurd effect_mem (silent request)

@[simp]
theorem send_notMem_ofChanges (changes : List CellChange) : send request ∉ ofChanges changes := by
  simp [ofChanges]

@[simp]
theorem send_notMem_surface (error : SyncError) : send request ∉ surface error := by
  unfold surface
  split <;> simp

@[simp]
theorem send_notMem_clearing (prediction : Prediction) : send request ∉ clearing prediction := by
  unfold clearing
  split <;> simp

end Effect

namespace Prediction

@[simp]
theorem afterTurnLost_afterTurnLost (prediction : Prediction) :
    prediction.afterTurnLost.afterTurnLost = prediction.afterTurnLost := by
  cases prediction <;> rfl

@[simp]
theorem afterTurnLost_ne_previewing (prediction : Prediction) (preview : Preview) :
    prediction.afterTurnLost ≠ .previewing preview := by
  cases prediction <;> simp [afterTurnLost]

@[simp]
theorem afterTurnChange_eq_previewing_iff {prediction : Prediction} {preview : Preview} :
    prediction.afterTurnChange = .previewing preview ↔ prediction = .previewing preview := by
  cases prediction <;> simp [afterTurnChange]

@[simp]
theorem isAwaiting_idle : idle.isAwaiting = false := rfl

@[simp]
theorem isAwaiting_previewing (preview : Preview) : (previewing preview).isAwaiting = false := rfl

@[simp]
theorem isAwaiting_confirmed (request : PlacementRequest) (key : RequestKey) :
    (confirmed request key).isAwaiting = true := rfl

@[simp]
theorem isAwaiting_afterTurnLost (prediction : Prediction) :
    prediction.afterTurnLost.isAwaiting = prediction.isAwaiting := by
  cases prediction <;> rfl

/-- Confirming either is refused and changes nothing, or drops a stale preview, or sends the active
one under a key that it begins. -/
theorem confirm_spec (prediction : Prediction) (localSlot : Slot) (turn : TurnClock)
    (ledger : Ledger) (now : Instant) :
    (∃ error, error ≠ .staleTurnAttempt ∧
      prediction.confirm localSlot turn ledger now = ⟨prediction, ledger, .error error⟩) ∨
    (∃ preview, prediction = .previewing preview ∧ turn.localTurnOpen now = false ∧
      prediction.confirm localSlot turn ledger now = ⟨.idle, ledger, .error .staleTurnAttempt⟩) ∨
    ∃ preview after, prediction = .previewing preview ∧ turn.localTurnOpen now = true ∧
      preview.locallyValid = true ∧
      ledger.begin? (.placement localSlot preview.anchor preview.shape.piece) now = some after ∧
      prediction.confirm localSlot turn ledger now =
        ⟨.confirmed (.ofShape localSlot preview.shape preview.anchor)
            (.placement localSlot preview.anchor preview.shape.piece),
          after, .ok (.ofShape localSlot preview.shape preview.anchor)⟩ := by
  cases prediction with
  | idle => exact .inl ⟨_, by simp, rfl⟩
  | confirmed => exact .inl ⟨_, by simp, rfl⟩
  | previewing preview =>
      cases turnOpen : turn.localTurnOpen now with
      | false => exact .inr (.inl ⟨preview, rfl, rfl, by simp [confirm, turnOpen]⟩)
      | true =>
          cases valid : preview.locallyValid with
          | false => exact .inl ⟨.locallyInvalid, by simp, by simp [confirm, turnOpen, valid]⟩
          | true =>
              cases began : ledger.begin?
                  (.placement localSlot preview.anchor preview.shape.piece) now with
              | none =>
                  refine .inl ⟨.duplicateSubmission, by simp, ?_⟩
                  simp [confirm, turnOpen, valid, began]
              | some after =>
                  refine .inr (.inr ⟨preview, after, rfl, rfl, valid, began, ?_⟩)
                  simp [confirm, turnOpen, valid, began]

end Prediction

namespace Session

variable (session : Session) (now : Instant)

/-! ## Signals of the clock -/

/-- Acting on a signal touches the prediction and the ledger alone. -/
theorem obey_frame (signal : TurnSignal) :
    (session.obey now signal).1 = { session with
      prediction := (session.obey now signal).1.prediction
      ledger := (session.obey now signal).1.ledger } := by
  cases signal with
  | display => rfl
  | previousTimedOut => rfl
  | localExpired =>
      simp only [obey, passTurn]
      split <;> rfl
  | desync =>
      simp only [obey, askForSnapshot]
      split <;> rfl

@[simp]
theorem obey_localSlot (signal : TurnSignal) :
    (session.obey now signal).1.localSlot = session.localSlot := by
  rw [obey_frame]
  rfl

theorem obeyAll_frame (signals : List TurnSignal) :
    (session.obeyAll now signals).1 = { session with
      prediction := (session.obeyAll now signals).1.prediction
      ledger := (session.obeyAll now signals).1.ledger } := by
  induction signals generalizing session with
  | nil => rfl
  | cons signal rest hypothesis =>
      have first := session.obey_frame now signal
      have later := hypothesis (session.obey now signal).1
      simp only [obeyAll]
      rw [later, first]

/-- Signals that are only shown change nothing and send nothing. -/
theorem obeyAll_of_isShown {signals : List TurnSignal}
    (shown : ∀ signal ∈ signals, signal.IsShown) :
    (session.obeyAll now signals).1 = session ∧
      ∀ request, .send request ∉ (session.obeyAll now signals).2 := by
  induction signals with
  | nil => exact ⟨rfl, fun _ => List.not_mem_nil⟩
  | cons signal rest hypothesis =>
      rcases hypothesis fun other other_mem => shown other (List.mem_cons_of_mem _ other_mem) with
        ⟨unchanged, silent⟩
      have signalShown := shown signal List.mem_cons_self
      cases signal with
      | display => exact ⟨unchanged, by simpa [obeyAll, obey] using silent⟩
      | previousTimedOut => exact ⟨unchanged, by simpa [obeyAll, obey] using silent⟩
      | localExpired => exact signalShown.elim
      | desync => exact signalShown.elim

/-- A preview is dropped when the local turn expires, and otherwise the prediction stays. -/
theorem obeyAll_prediction (signals : List TurnSignal) :
    (session.obeyAll now signals).1.prediction =
      if .localExpired ∈ signals then session.prediction.afterTurnLost
      else session.prediction := by
  induction signals generalizing session with
  | nil => rfl
  | cons signal rest hypothesis =>
      simp only [obeyAll, hypothesis]
      cases signal with
      | display => simp [obey]
      | previousTimedOut => simp [obey]
      | localExpired =>
          have dropped : (session.obey now .localExpired).1.prediction =
              session.prediction.afterTurnLost := by
            simp only [obey, passTurn]
            split <;> rfl
          simp [dropped]
      | desync =>
          have kept (waited : Duration) :
              (session.obey now (.desync waited)).1.prediction = session.prediction := by
            simp only [obey, askForSnapshot]
            split <;> rfl
          simp [kept]

/-- The clock sends nothing but a pass or a request for a snapshot. -/
theorem request_of_mem_obeyAll {signals : List TurnSignal} {request : OutboundRequest}
    (sent : .send request ∈ (session.obeyAll now signals).2) :
    request = .pass ∨ request = .resync := by
  induction signals generalizing session with
  | nil => exact absurd sent List.not_mem_nil
  | cons signal rest hypothesis =>
      rcases List.mem_append.mp sent with first | later
      · cases signal with
        | display => simp at first
        | previousTimedOut => simp at first
        | localExpired =>
            simp only [passTurn, loseTurn] at first
            split at first <;> split at first <;> simp_all
        | desync =>
            simp only [askForSnapshot] at first
            split at first <;> simp_all
      · exact hypothesis _ later

theorem obey_lifetime (signal : TurnSignal) :
    (session.obey now signal).1.ledger.lifetime = session.ledger.lifetime := by
  cases signal with
  | display => rfl
  | previousTimedOut => rfl
  | localExpired =>
      simp only [obey, passTurn]
      split
      case h_1 => rfl
      case h_2 began => exact Ledger.lifetime_of_begin? began
  | desync =>
      simp only [obey, askForSnapshot]
      split
      case h_1 => rfl
      case h_2 began => exact Ledger.lifetime_of_begin? began

theorem obeyAll_lifetime (signals : List TurnSignal) :
    (session.obeyAll now signals).1.ledger.lifetime = session.ledger.lifetime := by
  induction signals generalizing session with
  | nil => rfl
  | cons signal rest hypothesis => exact (hypothesis _).trans (session.obey_lifetime now signal)

theorem askForSnapshot_of_not_holds
    (free : session.ledger.holds (.resync session.localSlot) = false) :
    session.askForSnapshot now =
      ({ session with
          ledger := session.ledger.hold (.resync session.localSlot)
            (now + session.ledger.lifetime) },
        [.send .resync]) := by
  simp only [askForSnapshot, Ledger.begin?_of_not_holds free now]

/-! ## Events with more than one step -/

theorem boardSnapshot_of_accepted {rows : List (List Int)} {board : Reconciler}
    {changes : List CellChange}
    (accepted : Snapshot.decode rows >>= session.board.applySnapshot = .ok (board, changes)) :
    session.boardSnapshot rows now = .applied
      ({ session with board, ledger := session.ledger.release (.resync session.localSlot) },
        Effect.ofChanges changes) := by
  simp only [boardSnapshot, accepted]

/-- A refused snapshot answers the request for one, so that another is asked for at once. -/
theorem boardSnapshot_of_refused {rows : List (List Int)} {error : BoardError}
    (refused : Snapshot.decode rows >>= session.board.applySnapshot = .error error) :
    session.boardSnapshot rows now =
      ⟨{ session with
          ledger := (session.ledger.release (.resync session.localSlot)).hold
            (.resync session.localSlot) (now + session.ledger.lifetime) },
        [.send .resync], .error (.ofBoardError error)⟩ := by
  have free : (session.ledger.release (.resync session.localSlot)).holds
      (.resync session.localSlot) = false := Ledger.holds_release_self
  have asked := askForSnapshot_of_not_holds
    { session with ledger := session.ledger.release (.resync session.localSlot) } now free
  simp only [boardSnapshot, refused, asked]
  rfl

theorem releaseConfirmed_fst : session.releaseConfirmed.1 = { session with
    prediction := session.prediction.afterTurnChange
    ledger :=
      match session.prediction.confirmedKey? with
      | some key => session.ledger.release key
      | none => session.ledger } := by
  rcases session with ⟨_, _, _, _, _, prediction, _, _⟩
  cases prediction <;> rfl

@[simp]
theorem send_notMem_releaseConfirmed (request : OutboundRequest) :
    .send request ∉ session.releaseConfirmed.2 := by
  unfold releaseConfirmed
  split <;> simp

@[simp]
theorem send_notMem_loseTurn (request : OutboundRequest) :
    .send request ∉ session.loseTurn.2 := by
  unfold loseTurn
  dsimp only
  split <;> simp

/-- A turn change gives up a placement that waits, frees the key of the pass and drops a preview
that is not the local player's any more. -/
theorem turnChanged_fst (change : TurnClock.Change) :
    (session.turnChanged change now).1 =
      { session with
        room := if session.turn.phase = .waiting then session.room.startGame else session.room
        turn := (session.turn.change change now).1
        prediction :=
          if change.slot = session.localSlot then session.prediction.afterTurnChange
          else session.prediction.afterTurnChange.afterTurnLost
        ledger :=
          match session.prediction.confirmedKey? with
          | some key => (session.ledger.release (.pass session.localSlot)).release key
          | none => session.ledger.release (.pass session.localSlot) } := by
  simp only [turnChanged]
  rw [(obeyAll_of_isShown _ now fun _ => TurnClock.isShown_of_mem_change).1, releaseConfirmed_fst]
  simp only [localSlot, TurnClock.change_localSlot]
  by_cases own : change.slot = session.turn.localSlot
  · simp [own]
  · simp [own, loseTurn]

theorem send_notMem_turnChanged (change : TurnClock.Change) (request : OutboundRequest) :
    .send request ∉ (session.turnChanged change now).2 := by
  simp only [turnChanged, List.mem_append, not_or]
  refine ⟨⟨send_notMem_releaseConfirmed _ request, ?_⟩,
    (obeyAll_of_isShown _ now fun _ => TurnClock.isShown_of_mem_change).2 request⟩
  generalize (releaseConfirmed _).1 = released
  split <;> simp

/-! ## All that a call can lead to -/

/-- What a call of an open session leads to, and when. -/
inductive Stepped : Call → Outcome → Prop where
  /-- The event names a seat that does not exist. -/
  | dropped (event : ServerEvent) (now : Instant) (error : SyncError) :
      Stepped (.handle event now) ⟨session, [], .handled (.error error)⟩
  | roomChanged (event : ServerEvent) (now : Instant) (room : Room)
      (aboutRoom : event.IsAboutRoom) :
      Stepped (.handle event now) ⟨{ session with room }, [], .handled (.ok ())⟩
  | gameStarted (now : Instant) :
      Stepped (.handle .gameStarted now)
        ⟨session.gameStarted.1, session.gameStarted.2, .handled (.ok ())⟩
  | turnChanged (number : Int) (turnTime : Option Binary32) (remaining : Binary32)
      (previousTimedOut : Bool) (turnNumber : Nat) (now : Instant) (change : TurnClock.Change)
      (seat : Slot.ofServer number = .ok change.slot) :
      Stepped (.handle (.turnChanged number turnTime remaining previousTimedOut turnNumber) now)
        ⟨(session.turnChanged change now).1, (session.turnChanged change now).2, .handled (.ok ())⟩
  | snapshotAccepted (rows : List (List Int)) (now : Instant) (board : Reconciler)
      (changes : List CellChange)
      (accepted : Snapshot.decode rows >>= session.board.applySnapshot = .ok (board, changes)) :
      Stepped (.handle (.boardSnapshot rows) now)
        ⟨{ session with board, ledger := session.ledger.release (.resync session.localSlot) },
          Effect.ofChanges changes, .handled (.ok ())⟩
  | snapshotRefused (rows : List (List Int)) (now : Instant) (error : BoardError) (ledger : Ledger)
      (refused : Snapshot.decode rows >>= session.board.applySnapshot = .error error)
      (began : (session.ledger.release (.resync session.localSlot)).begin?
        (.resync session.localSlot) now = some ledger) :
      Stepped (.handle (.boardSnapshot rows) now)
        ⟨{ session with ledger }, [.send .resync], .handled (.error (.ofBoardError error))⟩
  | cellsPlaced (number : Int) (piece : Option Piece) (cells : List Position)
      (scoreGained : Option Nat) (now : Instant) (slot : Slot)
      (seat : Slot.ofServer number = .ok slot) :
      Stepped (.handle (.cellsPlaced number piece cells scoreGained) now)
        ⟨(session.cellsPlaced slot cells (pointsFor piece cells scoreGained)).1,
          (session.cellsPlaced slot cells (pointsFor piece cells scoreGained)).2, .handled (.ok ())⟩
  | placementRejected (code : String) (now : Instant) :
      Stepped (.handle (.placementRejected code) now)
        ⟨(session.placementRejected (.ofCode code)).1, (session.placementRejected (.ofCode code)).2,
          .handled (.ok ())⟩
  | gameEnded (winner : Option Int) (now : Instant) :
      Stepped (.handle (.gameEnded winner) now)
        ⟨(session.gameEnded (winnerOf winner)).1, (session.gameEnded (winnerOf winner)).2,
          .handled (.ok ())⟩
  | disconnected (code : String) (now : Instant) :
      Stepped (.handle (.disconnected code) now)
        ⟨session.teardown.1, (session.disconnected (.ofCode code)).2, .handled (.ok ())⟩
  | roomLeft (now : Instant) :
      Stepped (.handle .roomLeft now) ⟨session.teardown.1, session.teardown.2, .handled (.ok ())⟩
  | selected (shape : Shape) (anchor : Position) (now : Instant) (preview : Preview)
      (free : session.prediction.isAwaiting = false) (turnOpen : session.turn.localTurnOpen now)
      (shown : preview = Prediction.previewOf session.legality session.grid shape anchor) :
      Stepped (.select shape anchor now)
        ⟨{ session with prediction := .previewing preview },
          [.tell (.preview preview.cells (if preview.locallyValid then .valid else .invalid))],
          .input (.ok ())⟩
  | selectRefused (shape : Shape) (anchor : Position) (now : Instant) (error : PredictionError) :
      Stepped (.select shape anchor now) ⟨session, [], .input (.error error)⟩
  | confirmed (now : Instant) (preview : Preview) (request : PlacementRequest) (ledger : Ledger)
      (active : session.prediction = .previewing preview)
      (turnOpen : session.turn.localTurnOpen now) (valid : preview.locallyValid = true)
      (began : session.ledger.begin?
        (.placement session.localSlot preview.anchor preview.shape.piece) now = some ledger)
      (made : request =
        PlacementRequest.ofShape session.localSlot preview.shape preview.anchor) :
      Stepped (.confirm now)
        ⟨{ session with
            prediction := .confirmed request
              (.placement session.localSlot preview.anchor preview.shape.piece)
            ledger },
          [.send (.placement request)], .confirmed (.ok request)⟩
  | confirmStale (now : Instant) (preview : Preview)
      (active : session.prediction = .previewing preview)
      (turnClosed : session.turn.localTurnOpen now = false) :
      Stepped (.confirm now)
        ⟨{ session with prediction := .idle }, [.tell .previewCleared],
          .confirmed (.error .staleTurnAttempt)⟩
  | confirmRefused (now : Instant) (error : PredictionError) :
      Stepped (.confirm now) ⟨session, [], .confirmed (.error error)⟩
  | cancelled (preview : Preview) (active : session.prediction = .previewing preview) :
      Stepped .cancel
        ⟨{ session with prediction := .idle }, [.tell .previewCleared], .input (.ok ())⟩
  | cancelRefused (error : PredictionError) :
      Stepped .cancel ⟨session, [], .input (.error error)⟩
  | ticked (now : Instant) (swept : Session)
      (ran : swept = { session with
        turn := (session.turn.tick now).1
        ledger := session.ledger.sweep now }) :
      Stepped (.tick now)
        ⟨(swept.obeyAll now (session.turn.tick now).2).1,
          (swept.obeyAll now (session.turn.tick now).2).2, .done⟩
  | asked (now : Instant) (ledger : Ledger)
      (began : session.ledger.begin? (.resync session.localSlot) now = some ledger) :
      Stepped (.requestResync now)
        ⟨{ session with ledger }, [.send .resync], .requested true⟩
  | notAsked (now : Instant) (held : session.ledger.begin? (.resync session.localSlot) now = none) :
      Stepped (.requestResync now) ⟨session, [], .requested false⟩
  | left : Stepped .leave ⟨session.teardown.1, session.teardown.2, .done⟩

theorem step_of_closed {session : Session} (isClosed : session.closed = true) (call : Call) :
    (session.step call).session = session ∧ (session.step call).effects = [] := by
  cases call <;>
    simp [step, handle, Handled.applied, select, confirm, cancel, tick, requestResync, leave,
      isClosed]

theorem isOpen_of_step {session : Session} {call : Call}
    (stillOpen : (session.step call).session.closed = false) : session.closed = false := by
  cases isClosed : session.closed with
  | false => rfl
  | true => rwa [(step_of_closed isClosed call).1, isClosed] at stillOpen

theorem seatOf_eq_ok_iff {number : Int} {slot : Slot} :
    seatOf number = .ok slot ↔ Slot.ofServer number = .ok slot := by
  unfold seatOf
  split <;> simp_all

/-- A turn change for a seat that exists is carried out. -/
theorem step_turnChanged {session : Session} {number : Int} {slot : Slot}
    (isOpen : session.closed = false) (seat : Slot.ofServer number = .ok slot)
    (turnTime : Option Binary32) (remaining : Binary32) (previousTimedOut : Bool)
    (turnNumber : Nat) (now : Instant) :
    let change : TurnClock.Change :=
      ⟨slot, (turnTime.map Duration.ofSingle).getD session.defaultTurn, Duration.ofSingle remaining,
        previousTimedOut, turnNumber⟩
    session.step (.handle (.turnChanged number turnTime remaining previousTimedOut turnNumber)
      now) = ⟨(session.turnChanged change now).1, (session.turnChanged change now).2,
        .handled (.ok ())⟩ := by
  have notClosed : ¬session.closed = true := by simp [isOpen]
  simp only [step, handle, if_neg notClosed, atSeat, seatOf_eq_ok_iff.mpr seat, Handled.applied]

theorem stepped_atSeat {event : ServerEvent} {now : Instant} {number : Int}
    {apply : Slot → Session × List Effect}
    (applied : ∀ slot, Slot.ofServer number = .ok slot →
      session.Stepped (.handle event now) ⟨(apply slot).1, (apply slot).2, .handled (.ok ())⟩) :
    session.Stepped (.handle event now)
      ⟨(session.atSeat number apply).session, (session.atSeat number apply).effects,
        .handled (session.atSeat number apply).answer⟩ := by
  unfold atSeat
  split
  case h_1 slot seat => exact applied slot (seatOf_eq_ok_iff.mp seat)
  case h_2 error _ => exact .dropped event now error

theorem stepped_handle {session : Session} (isOpen : session.closed = false) (event : ServerEvent)
    (now : Instant) : session.Stepped (.handle event now) (session.step (.handle event now)) := by
  have notClosed : ¬session.closed = true := by simp [isOpen]
  simp only [step, handle, if_neg notClosed]
  cases event with
  | roomJoined roomId players =>
      simp only [roomJoined]
      split
      · exact .dropped _ now _
      · exact .roomChanged _ now _ trivial
  | playerJoined number userId displayName =>
      exact stepped_atSeat session fun _ _ => .roomChanged _ now _ trivial
  | playerLeft number => exact stepped_atSeat session fun _ _ => .roomChanged _ now _ trivial
  | playerReady number ready => exact stepped_atSeat session fun _ _ => .roomChanged _ now _ trivial
  | hostChanged number => exact stepped_atSeat session fun _ _ => .roomChanged _ now _ trivial
  | gameStarted => exact .gameStarted now
  | turnChanged number turnTime remaining previousTimedOut turnNumber =>
      exact stepped_atSeat session fun _ seat => .turnChanged _ _ _ _ _ now _ seat
  | boardSnapshot rows =>
      cases decoded : Snapshot.decode rows >>= session.board.applySnapshot with
      | ok result =>
          simp only [boardSnapshot, decoded]
          exact .snapshotAccepted rows now result.1 result.2 decoded
      | error error =>
          simp only [session.boardSnapshot_of_refused now decoded]
          exact .snapshotRefused rows now error _ decoded
            (Ledger.begin?_of_not_holds Ledger.holds_release_self now)
  | cellsPlaced number piece cells scoreGained =>
      exact stepped_atSeat session fun _ seat => .cellsPlaced _ _ _ _ now _ seat
  | placementRejected code => exact .placementRejected code now
  | scoresUpdated scores =>
      simp only [scoresUpdated]
      split
      · exact .dropped _ now _
      · exact .roomChanged _ now _ trivial
  | gameEnded winner => exact .gameEnded winner now
  | disconnected code => exact .disconnected code now
  | roomLeft => exact .roomLeft now

/-- The summary of all that a call of an open session can do. -/
theorem stepped_of_isOpen {session : Session} (isOpen : session.closed = false) (call : Call) :
    session.Stepped call (session.step call) := by
  have notClosed : ¬session.closed = true := by simp [isOpen]
  cases call with
  | handle event now => exact stepped_handle isOpen event now
  | select shape anchor now =>
      simp only [step, select, if_neg notClosed, Prediction.select]
      cases awaiting : session.prediction.isAwaiting with
      | true => exact .selectRefused shape anchor now _
      | false =>
          cases turnOpen : session.turn.localTurnOpen now with
          | false => exact .selectRefused shape anchor now _
          | true => exact .selected shape anchor now _ awaiting turnOpen rfl
  | confirm now =>
      simp only [step, confirm, if_neg notClosed]
      rcases session.prediction.confirm_spec session.localSlot session.turn session.ledger now with
        ⟨error, notStale, refused⟩ | ⟨preview, active, turnClosed, stale⟩ |
        ⟨preview, ledger, active, turnOpen, valid, began, sent⟩
      · simp only [refused]
        cases error with
        | staleTurnAttempt => exact absurd rfl notStale
        | _ => exact .confirmRefused now _
      · simp only [stale]
        exact .confirmStale now preview active turnClosed
      · simp only [sent]
        exact .confirmed now preview _ ledger active turnOpen valid began rfl
  | cancel =>
      simp only [step, cancel, if_neg notClosed]
      cases active : session.prediction with
      | idle => exact .cancelRefused _
      | previewing preview => exact .cancelled preview active
      | confirmed => exact .cancelRefused _
  | tick now =>
      simp only [step, tick, if_neg notClosed]
      exact .ticked now _ rfl
  | requestResync now =>
      simp only [step, requestResync, if_neg notClosed, askForSnapshot]
      cases began : session.ledger.begin? (.resync session.localSlot) now with
      | none => exact .notAsked now began
      | some ledger => exact .asked now ledger began
  | leave =>
      simp only [step, leave, if_neg notClosed]
      exact .left

/-- A session begins with nothing but the seat and the settings it is given. -/
theorem of_join {roomId : String} {number : Int} {timing : Timing} {legality : LegalityRule}
    {session : Session} (joined : join roomId number timing legality = .ok session) :
    ∃ slot, Slot.ofServer number = .ok slot ∧
      session = ⟨legality, timing.defaultTurn, .empty roomId, .start, .start slot timing.grace,
        .idle, .empty timing.lifetime, false⟩ := by
  unfold join at joined
  split at joined
  case h_1 => cases joined
  case h_2 slot seat =>
    cases joined
    exact ⟨slot, seat, rfl⟩

/-! ## What every call keeps -/

@[simp]
theorem step_legality (call : Call) : (session.step call).session.legality = session.legality := by
  cases isClosed : session.closed with
  | true => rw [(step_of_closed isClosed call).1]
  | false =>
      have stepped := stepped_of_isOpen isClosed call
      generalize session.step call = outcome at stepped ⊢
      cases stepped with
      | turnChanged => rw [turnChanged_fst]
      | ticked now swept ran => rw [obeyAll_frame, ran]
      | _ => rfl

@[simp]
theorem step_localSlot (call : Call) :
    (session.step call).session.localSlot = session.localSlot := by
  cases isClosed : session.closed with
  | true => rw [(step_of_closed isClosed call).1]
  | false =>
      have stepped := stepped_of_isOpen isClosed call
      generalize session.step call = outcome at stepped ⊢
      cases stepped with
      | turnChanged =>
          rw [turnChanged_fst]
          exact TurnClock.change_localSlot _ _ _
      | ticked now swept ran =>
          rw [obeyAll_frame, ran]
          exact TurnClock.tick_localSlot _ _
      | _ => rfl

theorem step_lifetime (call : Call) :
    (session.step call).session.ledger.lifetime = session.ledger.lifetime := by
  cases isClosed : session.closed with
  | true => rw [(step_of_closed isClosed call).1]
  | false =>
      have stepped := stepped_of_isOpen isClosed call
      generalize session.step call = outcome at stepped ⊢
      cases stepped with
      | turnChanged =>
          rw [turnChanged_fst]
          dsimp only
          split <;> rfl
      | cellsPlaced =>
          simp only [cellsPlaced]
          repeat' split
          all_goals rfl
      | placementRejected =>
          simp only [placementRejected]
          split <;> rfl
      | ticked now swept ran =>
          rw [obeyAll_lifetime, ran]
          rfl
      | snapshotRefused rows now error ledger refused began =>
          exact (Ledger.lifetime_of_begin? began).trans rfl
      | confirmed now preview request ledger active turnOpen valid began =>
          exact Ledger.lifetime_of_begin? began
      | asked now ledger began => exact Ledger.lifetime_of_begin? began
      | _ => rfl

end Session

end TileMatch
