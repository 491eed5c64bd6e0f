import TileMatch.Proofs.Session.Audience
import TileMatch.Proofs.Session.AutomaticPass
import TileMatch.Proofs.Session.Reception
import TileMatch.Proofs.Unmended

/-!
# The turn that observers see

A turn is displayed when it begins and while it counts down, and the end of a game displays that
there is none. The start of a game takes the turn away as well but displays nothing, so that a turn
that counts down then stays on the display. `Hall.displayed_eq_current_iff` says that the display is
wrong for this reason only, and until the next turn begins or the game ends.

What a call does to the turn and to its display is said once, in `Session.turnTold_step`.
-/

namespace TileMatch

/-- The view that shows whose turn it is. -/
def UiEvent.display? : UiEvent → Option (Option Slot)
  | turnDisplay slot _ => some slot
  | _ => none

/-- The seat whose turn it is by what an observer has heard. -/
def UiEvent.displayedSlot (events : List UiEvent) : Option Slot :=
  (latest? display? events).getD none

namespace TurnClock

/-- Unless the game has ended, a turn change begins the turn and displays it last. -/
theorem change_of_running {clock : TurnClock} (running : ∀ winner, clock.phase ≠ .ended winner)
    (change : Change) (now : Instant) :
    (clock.change change now).1.current? = some change.slot ∧
      (((clock.change change now).2.filterMap TurnSignal.event?).filterMap
        UiEvent.display?).getLast? = some (some change.slot) := by
  refine ⟨current?_of_active (change_phase running change now), ?_⟩
  unfold TurnClock.change
  split
  case h_1 winner ended => exact absurd ended (running winner)
  case h_2 =>
    dsimp only
    split <;> rfl

end TurnClock

namespace Moment

/-- The call begins a turn, or it ends the game. -/
def SetsTurn (moment : Moment) : Prop :=
  moment.AcceptsTurn ∨ ∃ winner, moment.Receives (.gameEnded winner)

/-- The call starts a game while a turn counts down. -/
def DropsTurn (moment : Moment) : Prop :=
  moment.before.turn.current? ≠ none ∧ moment.Receives .gameStarted

/-- What the call displays last of the turn, if it displays anything. -/
def displayed? (moment : Moment) : Option (Option Slot) :=
  (Effect.viewed UiEvent.display? moment.outcome.effects).getLast?

/-- What a call does to the turn and to its display. -/
inductive TurnTold (moment : Moment) : Prop
  /-- A turn that begins and the end of a game are displayed. -/
  | set (sets : moment.SetsTurn) (noStart : ¬moment.Receives .gameStarted)
      (displayed : moment.displayed? = some moment.after.turn.current?)
  /-- The start of a game takes the turn away and displays nothing. -/
  | dropped (starts : moment.Receives .gameStarted) (unset : ¬moment.SetsTurn)
      (silent : moment.displayed? = none) (gone : moment.after.turn.current? = none)
  /-- Any other call leaves the turn and displays no other one. -/
  | kept (unset : ¬moment.SetsTurn) (noStart : ¬moment.Receives .gameStarted)
      (same : ∀ shown ∈ moment.displayed?, shown = moment.before.turn.current? ∧ shown ≠ none)
      (kept : moment.after.turn.current? = moment.before.turn.current?)

end Moment

/-- The call handles a turn change, or the start or the end of a game. -/
def Call.IsAboutTurn : Call → Prop
  | handle (.turnChanged _ _ _ _ _) _ | handle .gameStarted _ | handle (.gameEnded _) _ => True
  | _ => False

theorem Call.not_isAboutTurn_of_isAboutRoom {event : ServerEvent} (aboutRoom : event.IsAboutRoom)
    (now : Instant) : ¬(Call.handle event now).IsAboutTurn := by
  cases event <;> simp_all [IsAboutTurn, ServerEvent.IsAboutRoom]

namespace Effect

/-- The seats whose turns the effects of a call display, in order. -/
abbrev displays (effects : List Effect) : List (Option Slot) := viewed UiEvent.display? effects

@[simp]
theorem displays_surface (error : SyncError) : displays (surface error) = [] :=
  viewed_surface (fun _ => rfl) error

@[simp]
theorem displays_clearing (prediction : Prediction) : displays (clearing prediction) = [] :=
  viewed_clearing rfl prediction

end Effect

namespace Moment

variable {moment : Moment}

theorem receives_of_handled {session after : Session} {event : ServerEvent} {now : Instant}
    {effects : List Effect} (isOpen : session.closed = false)
    (led : session.step (.handle event now) = ⟨after, effects, .handled (.ok ())⟩) :
    Receives ⟨session, .handle event now⟩ event :=
  ⟨isOpen, .inl ⟨congrArg Session.Outcome.answer led, now, rfl⟩⟩

/-- A call that takes in nothing about the turn keeps it, if it displays no other one. -/
theorem TurnTold.of_quiet {outcome : Session.Outcome} (led : moment.outcome = outcome)
    (quiet : moment.call.IsAboutTurn → outcome.answer ≠ .handled (.ok ()))
    (same : ∀ shown ∈ Effect.displays outcome.effects,
      shown = moment.before.turn.current? ∧ shown ≠ none)
    (kept : outcome.session.turn.current? = moment.before.turn.current?) : moment.TurnTold := by
  subst led
  refine .kept ?_ ?_ ?_ kept
  · rintro (⟨_, _, accepted, _, _, _, _, _, _, turn⟩ |
      ⟨winner, _, ⟨accepted, _, ends⟩ | ⟨impossible, _⟩⟩)
    · exact quiet (turn ▸ trivial) accepted
    · exact quiet (ends ▸ trivial) accepted
    · cases impossible
  · rintro ⟨_, ⟨accepted, _, starts⟩ | ⟨impossible, _⟩⟩
    · exact quiet (starts ▸ trivial) accepted
    · cases impossible
  · intro shown last
    exact same shown (List.mem_of_getLast? last)

end Moment

namespace Session

variable {session : Session}

theorem displays_tick (session swept : Session) (now : Instant) :
    ∀ shown ∈ Effect.displays (swept.obeyAll now (session.turn.tick now).2).2,
      shown = session.turn.current? ∧ shown ≠ none := by
  rw [Effect.displays, swept.viewed_obeyAll now rfl fun _ => rfl]
  intro shown seen
  rcases List.mem_filterMap.mp seen with ⟨event, told, picked⟩
  rcases List.mem_filterMap.mp told with ⟨signal, signalled, shownAs⟩
  cases signal with
  | display slot seconds =>
      cases shownAs
      cases picked
      rw [TurnClock.current?_of_display_mem_tick signalled]
      exact ⟨rfl, Option.some_ne_none slot⟩
  | previousTimedOut =>
      cases shownAs
      cases picked
  | localExpired | desync => cases shownAs

/-- A turn that is announced begins and is displayed, unless the game has ended. -/
theorem turnTold_turnChanged (isOpen : session.closed = false) {number : Int}
    {turnTime : Option Binary32} {remaining : Binary32} {previousTimedOut : Bool}
    {turnNumber : Nat} {call : Call} {now : Instant} {change : TurnClock.Change}
    (made : call = .handle (.turnChanged number turnTime remaining previousTimedOut turnNumber) now)
    (led : session.step call =
      ⟨(session.turnChanged change now).1, (session.turnChanged change now).2,
        .handled (.ok ())⟩) :
    Moment.TurnTold ⟨session, call⟩ := by
  have displayed : Moment.displayed? ⟨session, call⟩ =
      (((session.turn.change change now).2.filterMap TurnSignal.event?).filterMap
        UiEvent.display?).getLast? := by
    rw [Moment.displayed?, Moment.outcome, led, session.viewed_turnChanged now rfl fun _ => rfl]
  have clock : (Moment.after ⟨session, call⟩).turn = (session.turn.change change now).1 := by
    rw [Moment.after, Moment.outcome, led, turnChanged_fst]
  have accepted : Moment.answer ⟨session, call⟩ = .handled (.ok ()) := congrArg Outcome.answer led
  subst made
  have received := Moment.receives_of_handled isOpen led
  by_cases running : ∀ winner, session.turn.phase ≠ .ended winner
  · rcases TurnClock.change_of_running running change now with ⟨current, shown⟩
    refine .set (.inl ⟨isOpen, running, accepted, ?_⟩) (by simp [received.iff_eq]) ?_
    · exact ⟨_, _, _, _, _, now, rfl⟩
    · rw [displayed, clock, shown, current]
  · rcases Classical.not_forall.mp running with ⟨winner, ended⟩
    have unchanged := TurnClock.change_of_ended (Classical.not_not.mp ended) change now
    refine .kept ?_ (by simp [received.iff_eq]) ?_ ?_
    · rintro (accepts | ⟨winner, ends⟩)
      · exact running accepts.2.1
      · cases received.unique ends
    · rw [displayed, unchanged]
      simp
    · rw [clock, unchanged]

/-- A turn that begins and the end of a game are displayed, the start of a game takes the turn away
and displays nothing, and any other call leaves the turn as it is and displays no other one. -/
theorem turnTold_step {session : Session} (call : Call)
    (stillOpen : (session.step call).session.closed = false) :
    Moment.TurnTold ⟨session, call⟩ := by
  have isOpen := isOpen_of_step stillOpen
  have stepped := stepped_of_isOpen isOpen call
  generalize led : session.step call = outcome at stepped stillOpen
  cases stepped with
  | dropped event now error => exact .of_quiet led (fun _ => by simp) (by simp) rfl
  | roomChanged event now room aboutRoom =>
      have other := Call.not_isAboutTurn_of_isAboutRoom aboutRoom now
      exact .of_quiet led (fun about => absurd about other) (by simp) rfl
  | turnChanged number turnTime remaining previousTimedOut turnNumber now change seat =>
      exact turnTold_turnChanged isOpen rfl led
  | gameStarted now =>
      have received := Moment.receives_of_handled isOpen led
      refine .dropped received ?_ ?_ ?_
      · rintro (⟨_, _, _, _, _, _, _, _, _, turn⟩ | ⟨winner, ends⟩)
        · cases turn
        · cases received.unique ends
      · simp [Moment.displayed?, Moment.outcome, led, gameStarted, UiEvent.display?]
      · rw [Moment.after, Moment.outcome, led]
        rfl
  | gameEnded winner now =>
      have received := Moment.receives_of_handled isOpen led
      refine .set (.inr ⟨winner, received⟩) (by simp [received.iff_eq]) ?_
      rw [Moment.displayed?, Moment.after, Moment.outcome, led]
      simp [gameEnded, UiEvent.display?, TurnClock.endGame, TurnClock.current?,
        TurnClock.countdown?]
  | ticked now swept ran =>
      refine .of_quiet led False.elim (session.displays_tick swept now) ?_
      rw [obeyAll_frame, ran]
      exact session.turn.tick_current? now
  | cellsPlaced =>
      exact .of_quiet led False.elim (by simp [cellsPlaced, UiEvent.display?]) rfl
  | placementRejected =>
      refine .of_quiet led False.elim ?_ rfl
      simp [placementRejected, UiEvent.display?, UiEvent.previewCleared]
  | disconnected | roomLeft | left => cases stillOpen
  | _ =>
      exact .of_quiet led False.elim (by simp [UiEvent.display?, UiEvent.previewCleared]) rfl

/-- A turn that counts down has been displayed last. What has been displayed last is right unless a
game has started during a turn and nothing has set the turn since. -/
structure DisplayInStep (past : List Moment) (session : Session) : Prop where
  shown : ∀ slot, session.turn.current? = some slot →
    UiEvent.displayedSlot (past.flatMap Moment.told) = some slot
  agrees : UiEvent.displayedSlot (past.flatMap Moment.told) = session.turn.current? ↔
    ¬Unmended Moment.DropsTurn Moment.SetsTurn past

theorem displayedSlot_snoc (past : List Moment) (last : Moment) :
    UiEvent.displayedSlot ((past ++ [last]).flatMap Moment.told) =
      last.displayed?.getD (UiEvent.displayedSlot (past.flatMap Moment.told)) := by
  rw [UiEvent.displayedSlot, latest?_told_snoc, Option.getD_or]
  rfl

theorem DisplayInStep.step {past : List Moment} {moment : Moment}
    (holds : DisplayInStep past moment.before) (told : moment.TurnTold) :
    DisplayInStep (past ++ [moment]) moment.after := by
  have unshown (idle : moment.before.turn.current? ≠ none) :
      UiEvent.displayedSlot (past.flatMap Moment.told) = moment.before.turn.current? := by
    rcases Option.ne_none_iff_exists'.mp idle with ⟨slot, current⟩
    rw [holds.shown slot current, current]
  cases told with
  | set sets noStart displayed =>
      have right : UiEvent.displayedSlot ((past ++ [moment]).flatMap Moment.told) =
          moment.after.turn.current? := by
        rw [displayedSlot_snoc, displayed]
        rfl
      refine ⟨fun slot current => right.trans current, Unmended.fact_snoc_iff holds.agrees ?_⟩
      exact iff_of_true right ⟨fun drops => noStart drops.2, .inl sets⟩
  | dropped starts unset silent gone =>
      have same : UiEvent.displayedSlot ((past ++ [moment]).flatMap Moment.told) =
          UiEvent.displayedSlot (past.flatMap Moment.told) := by
        rw [displayedSlot_snoc, silent]
        rfl
      refine ⟨fun slot current => ?_, Unmended.fact_snoc_iff holds.agrees ?_⟩
      · cases gone.symm.trans current
      · rw [same, gone]
        by_cases idle : moment.before.turn.current? = none
        · simp [Moment.DropsTurn, idle, unset]
        · simp [Moment.DropsTurn, idle, unset, starts, unshown idle]
  | kept unset noStart same kept =>
      have right : UiEvent.displayedSlot ((past ++ [moment]).flatMap Moment.told) =
          UiEvent.displayedSlot (past.flatMap Moment.told) := by
        rw [displayedSlot_snoc]
        cases displayed : moment.displayed? with
        | none => rfl
        | some shown =>
            rcases same shown displayed with ⟨rfl, counting⟩
            exact (unshown counting).symm
      refine ⟨fun slot current => ?_, Unmended.fact_snoc_iff holds.agrees ?_⟩
      · rw [right]
        exact holds.shown slot (kept.symm.trans current)
      · rw [right, kept]
        simp [Moment.DropsTurn, unset, noStart]

variable {roomId : String} {number : Int} {timing : Timing} {legality : LegalityRule}

theorem displayInStep_after (joined : join roomId number timing legality = .ok session)
    (calls : List Call) (isOpen : (session.after calls).closed = false) :
    DisplayInStep (session.history calls) (session.after calls) := by
  revert isOpen
  refine history_induction
    (fun past session => session.closed = false → DisplayInStep past session) ?_ ?_ calls
  · rcases of_join joined with ⟨slot, _, rfl⟩
    intro _
    refine ⟨fun slot current => ?_, iff_of_true rfl Unmended.not_nil⟩
    cases current
  · intro past before call holds stillOpen
    exact (holds (isOpen_of_step stillOpen)).step (turnTold_step call stillOpen)

end Session

namespace Hall

variable {roomId : String} {number : Int} {timing : Timing} {legality : LegalityRule}
  {hall : Hall} {id : ObserverId}

/-- As long as the session is open, a turn that counts down is on the display of every observer that
has listened from the beginning. The display is right, and names no seat exactly if no turn is
active, unless a game has started while a turn counted down and neither has a turn begun nor a game
ended since. -/
theorem displayed_eq_current_iff
    (joined : Session.join roomId number timing legality = .ok hall.session)
    (opens : hall.OpensWith id) (calls : List HallCall) (stays : .unregister id ∉ calls)
    (isOpen : (hall.after calls).session.closed = false) :
    (∀ slot, (hall.after calls).session.turn.current? = some slot →
      UiEvent.displayedSlot (hall.heard id calls) = some slot) ∧
    (UiEvent.displayedSlot (hall.heard id calls) = (hall.after calls).session.turn.current? ↔
      ¬Unmended Moment.DropsTurn Moment.SetsTurn
        (hall.session.history (calls.filterMap HallCall.session?))) ∧
    ((UiEvent.displayedSlot (hall.heard id calls) = none ↔
        (hall.after calls).session.turn.current? = none) ↔
      ¬Unmended Moment.DropsTurn Moment.SetsTurn
        (hall.session.history (calls.filterMap HallCall.session?))) := by
  rw [session_after] at isOpen
  have invariant := Session.displayInStep_after joined _ isOpen
  rw [heard_of_opensWith opens stays, session_after]
  refine ⟨invariant.shown, invariant.agrees, ?_⟩
  rw [← invariant.agrees]
  cases current : (hall.session.after (calls.filterMap HallCall.session?)).turn.current? with
  | none => simp [Session.told]
  | some slot => simp [Session.told, invariant.shown slot current]

/-- A turn, and then the start of a game. -/
def startDuringTurn : List HallCall :=
  [.session (.handle (.turnChanged 1 none (.ofBits 0x41f00000) false 1) 0),
    .session (.handle .gameStarted 1)]

theorem displayed_after_next_end : ∃ hall : Hall,
    Session.join "room" 1 .standard (.constant true) = .ok hall.session ∧ hall.OpensWith 0 ∧
    ¬Unmended Moment.DropsTurn Moment.SetsTurn (hall.session.history
      ((startDuringTurn ++ [HallCall.session (.handle (.gameEnded none) 2)]).filterMap
        HallCall.session?)) := by
  have joined : Session.join "room" 1 .standard (.constant true) =
      .ok (Hall.mk _ (Audience.empty.register false).1).session := rfl
  refine ⟨_, joined, opensWith_first _, ?_⟩
  have fact := displayed_eq_current_iff joined (opensWith_first _)
    (startDuringTurn ++ [HallCall.session (.handle (.gameEnded none) 2)]) (by decide) rfl
  exact fact.2.1.mp (by decide +kernel)

/-- The session is open then and no turn is active, but the first seat is still on display. -/
theorem displayed_without_turn : ∃ hall : Hall,
    Session.join "room" 1 .standard (.constant true) = .ok hall.session ∧ hall.OpensWith 0 ∧
    .unregister 0 ∉ startDuringTurn ∧ (hall.after startDuringTurn).session.closed = false ∧
    (hall.after startDuringTurn).session.turn.current? = none ∧
    UiEvent.displayedSlot (hall.heard 0 startDuringTurn) = some ⟨0⟩ := by
  have joined : Session.join "room" 1 .standard (.constant true) =
      .ok (Hall.mk _ (Audience.empty.register false).1).session := rfl
  exact ⟨_, joined, opensWith_first _, by decide, rfl, rfl, by decide +kernel⟩

end Hall

end TileMatch
