import TileMatch.Proofs.Board.Decoding
import TileMatch.Proofs.Board.Picture
import TileMatch.Proofs.Session.Audience
import TileMatch.Proofs.Session.Reception
import TileMatch.Proofs.Unmended

/-!
# The board that observers see

Of all the calls of a session three kinds touch the board: the start of a game, a snapshot and a
placement. Each of them makes one call of the reconciler, `Call.boardCall?`, and tells exactly the
squares that the reconciler reports, in its order (`Session.step_board`). So the picture that an
observer draws is the live grid as long as the session is open, and nothing is drawn twice except by
the first snapshot of a game, which has no baseline to be compared with.
-/

namespace TileMatch

/-- The view that draws the board. -/
def UiEvent.change? : UiEvent → Option CellChange
  | cell position owner => some ⟨position, owner⟩
  | _ => none

/-- What an event does to the board, if it does anything. -/
def ServerEvent.boardCall? : ServerEvent → Option BoardCall
  | gameStarted => some .reset
  | boardSnapshot rows => (Snapshot.decode rows).toOption.map .snapshot
  | cellsPlaced number _ cells _ => (Session.seatOf number).toOption.map fun slot =>
      .update (cells.map fun position => (position, .owned slot))
  | _ => none

/-- What a call does to the board, if it does anything and the session stays open. -/
def Call.boardCall? : Call → Option BoardCall
  | handle event _ => event.boardCall?
  | _ => none

/-- The picture that an observer has drawn on an empty board from what it has heard. -/
def UiEvent.picture (events : List UiEvent) : Grid := Grid.empty.draw (events.filterMap change?)

@[simp]
theorem UiEvent.filterMap_change?_cell (changes : List CellChange) :
    (changes.filterMap fun change => change? (.cell change.position change.owner)) = changes := by
  simp [change?]

namespace Effect

/-- The squares that the effects of a call tell to redraw, in order. -/
abbrev redrawn (effects : List Effect) : List CellChange := viewed UiEvent.change? effects

@[simp]
theorem redrawn_surface (error : SyncError) : redrawn (surface error) = [] :=
  viewed_surface (fun _ => rfl) error

@[simp]
theorem redrawn_clearing (prediction : Prediction) : redrawn (clearing prediction) = [] :=
  viewed_clearing rfl prediction

end Effect

namespace Session

variable {session : Session}

/-! ## What a call does to the board -/

/-- Either the reconciler takes a call, and what is to be redrawn is what it reports. Or nothing is
to be redrawn, and the board stays as it is unless the session closes. -/
structure DrawsAs (session : Session) (boardCall? : Option BoardCall) (after : Session)
    (effects : List Effect) : Prop where
  draws : ∀ boardCall, boardCall? = some boardCall →
    session.board.step boardCall = (after.board, .ok (Effect.redrawn effects))
  quiet : boardCall? = none → Effect.redrawn effects = []
  rests : boardCall? = none → after.closed = false → after.board = session.board

theorem DrawsAs.of_some {boardCall : BoardCall} {after : Session} {effects : List Effect}
    (made : session.board.step boardCall = (after.board, .ok (Effect.redrawn effects))) :
    session.DrawsAs (some boardCall) after effects := by
  refine ⟨?_, nofun, nofun⟩
  rintro _ ⟨⟩
  exact made

theorem DrawsAs.of_none {after : Session} {effects : List Effect}
    (nothing : Effect.redrawn effects = [])
    (kept : after.closed = false → after.board = session.board) :
    session.DrawsAs none after effects :=
  ⟨nofun, fun _ => nothing, fun _ => kept⟩

theorem redrawn_signals (signals : List TurnSignal) :
    (signals.filterMap TurnSignal.event?).filterMap UiEvent.change? = [] := by
  rw [List.filterMap_filterMap, List.filterMap_eq_nil_iff]
  intro signal _
  cases signal <;> rfl

theorem redrawn_obeyAll (session : Session) (signals : List TurnSignal) (now : Instant) :
    Effect.redrawn (session.obeyAll now signals).2 = [] := by
  rw [Effect.redrawn, session.viewed_obeyAll now rfl (fun _ => rfl), redrawn_signals]

theorem redrawn_turnChanged (session : Session) (change : TurnClock.Change) (now : Instant) :
    Effect.redrawn (session.turnChanged change now).2 = [] := by
  rw [Effect.redrawn, session.viewed_turnChanged now rfl (fun _ => rfl), redrawn_signals]

theorem redrawn_teardown (session : Session) : Effect.redrawn session.teardown.2 = [] :=
  Effect.redrawn_clearing session.prediction

/-- A snapshot that can be read fits the board, so that it is taken over. -/
theorem boardSnapshot_of_decode (session : Session) {rows : List (List Int)}
    {owners : List (List CellOwner)} (decoded : Snapshot.decode rows = .ok owners)
    (now : Instant) : ∃ incoming : Grid, incoming.toRows = owners ∧
      session.boardSnapshot rows now = .applied
        ({ session with
            board := (session.board.accept incoming).1
            ledger := session.ledger.release (.resync session.localSlot) },
          Effect.ofChanges (session.board.accept incoming).2) := by
  rcases session.board.step_snapshot_of_hasBoardSize (Snapshot.hasBoardSize_of_decode decoded)
    with ⟨incoming, rfl, _⟩
  refine ⟨incoming, rfl, session.boardSnapshot_of_accepted now ?_⟩
  rw [decoded]
  exact congrArg (Except.map session.board.accept) incoming.ofRows_toRows

theorem drawsAs_boardSnapshot (session : Session) (rows : List (List Int)) (now : Instant) :
    session.DrawsAs (ServerEvent.boardSnapshot rows).boardCall?
      (session.boardSnapshot rows now).session (session.boardSnapshot rows now).effects := by
  simp only [ServerEvent.boardCall?]
  cases decoded : Snapshot.decode rows with
  | error error =>
      have refused : Snapshot.decode rows >>= session.board.applySnapshot = .error error := by
        rw [decoded]
        rfl
      rw [boardSnapshot_of_refused session now refused]
      exact .of_none rfl fun _ => rfl
  | ok owners =>
      rcases session.boardSnapshot_of_decode decoded now with ⟨incoming, rfl, applied⟩
      have accepted : session.board.step (.snapshot incoming.toRows) =
          ((session.board.accept incoming).1, .ok (session.board.accept incoming).2) :=
        Reconciler.step_snapshot_eq_ok_iff.mpr
          (congrArg (Except.map session.board.accept) incoming.ofRows_toRows)
      rw [applied]
      apply DrawsAs.of_some
      simpa [Handled.applied] using accepted

theorem drawsAs_handle (isOpen : session.closed = false) (event : ServerEvent) (now : Instant) :
    session.DrawsAs event.boardCall? (session.handle event now).session
      (session.handle event now).effects := by
  have notClosed : ¬session.closed = true := by simp [isOpen]
  unfold handle
  rw [if_neg notClosed]
  cases event with
  | roomJoined | scoresUpdated =>
      simp only [roomJoined, scoresUpdated]
      split <;> exact .of_none rfl fun _ => rfl
  | playerJoined | playerLeft | playerReady | hostChanged =>
      simp only [atSeat]
      split <;> exact .of_none rfl fun _ => rfl
  | gameStarted =>
      apply DrawsAs.of_some
      simp [Handled.applied, gameStarted, Reconciler.step, UiEvent.change?]
  | turnChanged =>
      simp only [atSeat]
      split
      · apply DrawsAs.of_none (session.redrawn_turnChanged _ now)
        simp only [Handled.applied, turnChanged_fst, implies_true]
      · exact .of_none rfl fun _ => rfl
  | boardSnapshot rows => exact session.drawsAs_boardSnapshot rows now
  | cellsPlaced number piece cells scoreGained =>
      simp only [atSeat, ServerEvent.boardCall?]
      cases seatOf number with
      | ok slot =>
          apply DrawsAs.of_some
          simp [Handled.applied, cellsPlaced, Reconciler.step]
      | error => exact .of_none rfl fun _ => rfl
  | placementRejected code =>
      refine .of_none ?_ fun _ => rfl
      simp [Handled.applied, placementRejected, UiEvent.change?, UiEvent.previewCleared]
  | gameEnded winner =>
      refine .of_none ?_ fun _ => rfl
      simp [Handled.applied, gameEnded, UiEvent.change?]
  | disconnected code =>
      refine .of_none ?_ fun stillOpen => ?_
      · simp [Handled.applied, disconnected, redrawn_teardown]
      · cases stillOpen
  | roomLeft =>
      refine .of_none session.redrawn_teardown fun stillOpen => ?_
      cases stillOpen

theorem redrawn_of_local (session : Session) {call : Call}
    (inward : ∀ event now, call ≠ .handle event now) :
    Effect.redrawn (session.step call).effects = [] := by
  cases isClosed : session.closed with
  | true => rw [(step_of_closed isClosed call).2, Effect.redrawn, Effect.viewed_nil]
  | false =>
      have stepped := stepped_of_isOpen isClosed call
      generalize session.step call = outcome at stepped ⊢
      cases stepped with
      | ticked now swept => exact swept.redrawn_obeyAll _ now
      | left => exact session.redrawn_teardown
      | selected | selectRefused | confirmed | confirmStale | confirmRefused | cancelled
      | cancelRefused | asked | notAsked => rfl
      | _ => exact absurd rfl (inward _ _)

/-- What every call does to the board, and what it tells to redraw. -/
theorem drawsAs_step (isOpen : session.closed = false) (call : Call) :
    session.DrawsAs call.boardCall? (session.step call).session (session.step call).effects := by
  cases call with
  | handle event now => exact drawsAs_handle isOpen event now
  | leave =>
      refine .of_none (session.redrawn_of_local (by simp)) fun stillOpen => ?_
      simp [step, leave, isOpen, teardown] at stillOpen
  | _ =>
      refine .of_none (session.redrawn_of_local (by simp)) fun _ => ?_
      exact congrArg SharedView.board (session.shared_step_of_local (by simp) (by simp))

end Session

/-! ## The baseline -/

namespace Reconciler

variable {board : Reconciler}

theorem baseline_of_decode_applySnapshot {rows : List (List Int)} {next : Reconciler}
    {changes : List CellChange}
    (accepted : Snapshot.decode rows >>= board.applySnapshot = .ok (next, changes)) :
    next.baseline ≠ none := by
  cases decoded : Snapshot.decode rows with
  | error => simp [decoded, bind, Except.bind] at accepted
  | ok owners =>
      simp only [decoded, bind, Except.bind, applySnapshot] at accepted
      cases read : Grid.ofRows owners with
      | error => simp [read, Except.map] at accepted
      | ok incoming =>
          simp only [read, Except.map, Except.ok.injEq] at accepted
          cases accepted
          exact Option.some_ne_none incoming

theorem baseline_applyCells (board : Reconciler) (cells : List (Position × CellOwner)) :
    (board.applyCells cells).1.baseline = none ↔ board.baseline = none := by
  induction cells generalizing board with
  | nil => rfl
  | cons entry rest hypothesis =>
      simp only [applyCells]
      rw [hypothesis]
      unfold applyCell
      split <;> simp

end Reconciler

/-- An accepted event sets a baseline if it is a snapshot, and forgets it if it starts a game. -/
theorem SharedView.baseline_receive {view : SharedView} {event : ServerEvent}
    (isOpen : view.closed = false) (answer : (view.receive event).2 = .ok ())
    (stillOpen : (view.receive event).1.closed = false) :
    (view.receive event).1.board.baseline = none ↔ (∀ rows, event ≠ .boardSnapshot rows) ∧
      (event = .gameStarted ∨ view.board.baseline = none) := by
  have notClosed : ¬view.closed = true := by simp [isOpen]
  unfold receive at answer stillOpen ⊢
  rw [if_neg notClosed] at answer stillOpen ⊢
  cases event with
  | roomJoined | scoresUpdated =>
      dsimp only at answer ⊢
      split at answer
      case h_1 => simp
      case h_2 => cases answer
  | playerJoined | playerLeft | playerReady | hostChanged =>
      rcases atSeat_of_accepted answer with ⟨slot, _, applied⟩
      dsimp only
      rw [applied]
      simp
  | turnChanged =>
      rcases atSeat_of_accepted answer with ⟨slot, _, applied⟩
      dsimp only
      rw [applied]
      unfold turnChanged
      split <;> simp
  | cellsPlaced =>
      rcases atSeat_of_accepted answer with ⟨slot, _, applied⟩
      dsimp only
      rw [applied]
      simp [Reconciler.baseline_applyCells]
  | boardSnapshot rows =>
      dsimp only at answer ⊢
      split at answer
      case h_1 board changes accepted =>
        simp [Reconciler.baseline_of_decode_applySnapshot accepted]
      case h_2 => cases answer
  | gameStarted => simp [Reconciler.start]
  | placementRejected | gameEnded => simp
  | disconnected | roomLeft => cases stillOpen

namespace Moment

/-- The call takes over a snapshot. -/
def TakesSnapshot (moment : Moment) : Prop := ∃ rows, moment.Receives (.boardSnapshot rows)

/-- A snapshot that does something to the board is taken over. -/
theorem takesSnapshot_of_boardCall? {session : Session} {call : Call}
    {owners : List (List CellOwner)} (isOpen : session.closed = false)
    (made : call.boardCall? = some (.snapshot owners)) : TakesSnapshot ⟨session, call⟩ := by
  have notClosed : ¬session.closed = true := by simp [isOpen]
  cases call with
  | handle event now =>
      cases event with
      | boardSnapshot rows =>
          cases decoded : Snapshot.decode rows with
          | error =>
              simp [Call.boardCall?, ServerEvent.boardCall?, decoded, Except.toOption] at made
          | ok read =>
              rcases session.boardSnapshot_of_decode decoded now with ⟨incoming, _, applied⟩
              have handled : session.handle (.boardSnapshot rows) now =
                  session.boardSnapshot rows now := if_neg notClosed
              refine ⟨rows, isOpen, .inl ⟨?_, now, rfl⟩⟩
              simp only [answer, outcome, Session.step, handled, applied]
              rfl
      | cellsPlaced number =>
          rcases Option.map_eq_some_iff.mp made with ⟨slot, _, impossible⟩
          cases impossible
      | _ => cases made
  | _ => cases made

theorem baseline_iff (moment : Moment) (stillOpen : moment.after.closed = false) :
    moment.after.board.baseline = none ↔ ¬moment.TakesSnapshot ∧
      (moment.Receives .gameStarted ∨ moment.before.board.baseline = none) := by
  rcases moment.shared_cases with ⟨ignores, kept⟩ | ⟨event, received, isOpen, answer, changed⟩
  · have same : moment.after.board = moment.before.board := congrArg SharedView.board kept
    simp [TakesSnapshot, ignores, same]
  · have closed : moment.after.closed = _ := congrArg SharedView.closed changed
    have board : moment.after.board = _ := congrArg SharedView.board changed
    rw [closed] at stillOpen
    rw [board, SharedView.baseline_receive isOpen answer stillOpen]
    simp [TakesSnapshot, received.iff_eq]

end Moment

namespace Session

variable {session : Session}

/-- A snapshot has been taken over, and no game has started since. -/
def HasSnapshot (past : List Moment) : Prop :=
  Unmended Moment.TakesSnapshot (·.Receives .gameStarted) past

/-- What the past has told is the board of the session, and there is a baseline once a snapshot has
been taken over. -/
structure PictureInStep (past : List Moment) (session : Session) : Prop where
  inStep : session.board.InStep
  drawn : UiEvent.picture (past.flatMap Moment.told) = session.grid
  baseline : session.board.baseline = none ↔ ¬HasSnapshot past

theorem picture_append (earlier later : List UiEvent) : UiEvent.picture (earlier ++ later) =
    (UiEvent.picture earlier).draw (later.filterMap UiEvent.change?) := by
  simp [UiEvent.picture, Grid.draw_append]

theorem DrawsAs.inStep {boardCall? : Option BoardCall} {after : Session} {effects : List Effect}
    (draws : session.DrawsAs boardCall? after effects) (stillOpen : after.closed = false)
    (inStep : session.board.InStep) : after.board.InStep := by
  cases made : boardCall? with
  | none => rwa [draws.rests made stillOpen]
  | some boardCall =>
      have stepped := inStep.step boardCall
      rwa [draws.draws boardCall made] at stepped

theorem DrawsAs.draw_redrawn {boardCall? : Option BoardCall} {after : Session}
    {effects : List Effect} (draws : session.DrawsAs boardCall? after effects)
    (stillOpen : after.closed = false) (inStep : session.board.InStep) :
    session.grid.draw (Effect.redrawn effects) = after.grid := by
  cases made : boardCall? with
  | none =>
      rw [draws.quiet made, Grid.draw_nil, grid, grid, draws.rests made stillOpen]
  | some boardCall =>
      have drawn := inStep.draw_step (congrArg Prod.snd (draws.draws boardCall made))
      rwa [draws.draws boardCall made] at drawn

theorem DrawsAs.isAlteredBy_redrawn {boardCall? : Option BoardCall} {after : Session}
    {effects : List Effect} (draws : session.DrawsAs boardCall? after effects)
    (inStep : session.board.InStep)
    (compared : ∀ rows, boardCall? = some (.snapshot rows) → session.board.baseline ≠ none) :
    session.grid.IsAlteredBy (Effect.redrawn effects) := by
  cases made : boardCall? with
  | none =>
      rw [draws.quiet made]
      trivial
  | some boardCall =>
      apply inStep.isAlteredBy_step (congrArg Prod.snd (draws.draws boardCall made))
      rintro rows rfl
      exact compared rows made

theorem PictureInStep.step {past : List Moment} {session : Session}
    (holds : PictureInStep past session) {call : Call}
    (stillOpen : (session.step call).session.closed = false) :
    PictureInStep (past ++ [⟨session, call⟩]) (session.step call).session := by
  have draws := drawsAs_step (isOpen_of_step stillOpen) call
  refine ⟨draws.inStep stillOpen holds.inStep, ?_, ?_⟩
  · rw [List.flatMap_append, picture_append, holds.drawn, List.flatMap_singleton]
    exact draws.draw_redrawn stillOpen holds.inStep
  · exact Unmended.fact_snoc_iff holds.baseline (Moment.baseline_iff ⟨session, call⟩ stillOpen)

variable {roomId : String} {number : Int} {timing : Timing} {legality : LegalityRule}

theorem pictureInStep_after (joined : join roomId number timing legality = .ok session)
    (calls : List Call) (isOpen : (session.after calls).closed = false) :
    PictureInStep (session.history calls) (session.after calls) := by
  revert isOpen
  refine history_induction
    (fun past session => session.closed = false → PictureInStep past session) ?_ ?_ calls
  · rcases of_join joined with ⟨slot, _, rfl⟩
    intro _
    exact ⟨nofun, rfl, iff_of_true rfl Unmended.not_nil⟩
  · intro past before call holds stillOpen
    exact (holds (isOpen_of_step stillOpen)).step stillOpen

end Session

namespace Hall

variable {roomId : String} {number : Int} {timing : Timing} {legality : LegalityRule}
  {hall : Hall} {id : ObserverId}

/-- As long as the session is open, the picture of an observer that has listened from the beginning
is the board. Whatever the next call is, each square that it tells to redraw alters the picture when
it is drawn, unless the call takes over a snapshot and none has been taken over since the session
began or the last game started. -/
theorem picture_eq_board (joined : Session.join roomId number timing legality = .ok hall.session)
    (opens : hall.OpensWith id) (calls : List HallCall) (stays : .unregister id ∉ calls) :
    ((hall.after calls).session.closed = false →
      UiEvent.picture (hall.heard id calls) = (hall.after calls).session.grid) ∧
    ∀ call, (Moment.TakesSnapshot ⟨(hall.after calls).session, call⟩ →
        Session.HasSnapshot (hall.session.history (calls.filterMap HallCall.session?))) →
      (UiEvent.picture (hall.heard id calls)).IsAlteredBy
        (((hall.after calls).hears id (.session call)).filterMap UiEvent.change?) := by
  have invariant := Session.pictureInStep_after joined (calls.filterMap HallCall.session?)
  rw [heard_of_opensWith opens stays]
  constructor
  · intro isOpen
    rw [session_after] at isOpen ⊢
    exact (invariant isOpen).drawn
  · intro call compared
    rw [hears_of_opensWith opens stays, session_after]
    cases isClosed : (hall.session.after (calls.filterMap HallCall.session?)).closed with
    | true =>
        rw [Session.told_of_closed isClosed]
        trivial
    | false =>
        have inStep := invariant isClosed
        have drawn : UiEvent.picture (hall.session.told (calls.filterMap HallCall.session?)) = _ :=
          inStep.drawn
        rw [drawn, Moment.filterMap_told]
        apply (Session.drawsAs_step isClosed call).isAlteredBy_redrawn inStep.inStep
        intro owners made
        rw [ne_eq, inStep.baseline, Classical.not_not]
        apply compared
        rw [session_after]
        exact Moment.takesSnapshot_of_boardCall? isClosed made

/-- A placement that names a square twice and one beside the board, and the next game. -/
def placementAndRestart : List HallCall :=
  [.session (.handle (.cellsPlaced 1 none [⟨0, 0⟩, ⟨0, 0⟩, ⟨20, 3⟩] none) 0), .register true,
    .session (.handle .gameStarted 1)]

theorem picture_after_restart : ∃ hall : Hall,
    Session.join "room" 1 .standard (.constant true) = .ok hall.session ∧ hall.OpensWith 0 ∧
    UiEvent.picture (hall.heard 0 placementAndRestart) =
      (hall.after placementAndRestart).session.grid ∧
    (UiEvent.picture (hall.heard 0 placementAndRestart)).IsAlteredBy
      (((hall.after placementAndRestart).hears 0 (.session (.handle
        (.cellsPlaced 2 none [⟨5, 6⟩, ⟨5, 6⟩] none) 2))).filterMap UiEvent.change?) := by
  have joined : Session.join "room" 1 .standard (.constant true) =
      .ok (Hall.mk _ (Audience.empty.register false).1).session := rfl
  refine ⟨_, joined, opensWith_first _, ?_⟩
  have fact := picture_eq_board joined (opensWith_first _) placementAndRestart (by decide)
  refine ⟨fact.1 rfl, fact.2 _ ?_⟩
  rintro ⟨rows, _, ⟨_, now, same⟩ | ⟨impossible, _⟩⟩
  · cases same
  · cases impossible

end Hall

end TileMatch
