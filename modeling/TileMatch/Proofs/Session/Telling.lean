import TileMatch.Proofs.Session.History

/-!
# What a call tells

Observers look at what they are told through views: one draws the board, another the preview, a
third the turn, and each view picks the events that it is about. `Effect.viewed` is what a view
picks from the effects of a call, `UiEvent.latest?` what it has picked last.

The lemmas here say what can be seen of the parts that several calls have in common. A view that
looks neither at previews nor at errors sees of the clock exactly the signals that are shown
(`Session.viewed_obeyAll`), and of a turn change those of its clock (`Session.viewed_turnChanged`).
-/

namespace TileMatch

namespace UiEvent

variable {α : Type}

/-- What a view has picked last from the events so far. -/
def latest? (view : UiEvent → Option α) (events : List UiEvent) : Option α :=
  (events.filterMap view).getLast?

theorem latest?_append (view : UiEvent → Option α) (earlier later : List UiEvent) :
    latest? view (earlier ++ later) = (latest? view later).or (latest? view earlier) := by
  simp [latest?, List.getLast?_append]

end UiEvent

namespace TurnSignal

/-- The event by which a signal is passed on, if it is one that is shown. -/
def event? : TurnSignal → Option UiEvent
  | display slot seconds => some (.turnDisplay (some slot) seconds)
  | previousTimedOut previous => some (.notice (.previousTurnTimedOut previous))
  | localExpired | desync _ => none

end TurnSignal

namespace Effect

variable {α : Type} (view : UiEvent → Option α)

/-- What a view picks from the effects of a call, in order. -/
def viewed (effects : List Effect) : List α := (effects.filterMap event?).filterMap view

@[simp]
theorem viewed_nil : viewed view [] = [] := rfl

@[simp]
theorem viewed_send (request : OutboundRequest) (rest : List Effect) :
    viewed view (send request :: rest) = viewed view rest := rfl

@[simp]
theorem viewed_tell (event : UiEvent) (rest : List Effect) :
    viewed view (tell event :: rest) = (view event).toList ++ viewed view rest := by
  cases seen : view event <;> simp [viewed, event?, seen]

@[simp]
theorem viewed_append (first second : List Effect) :
    viewed view (first ++ second) = viewed view first ++ viewed view second := by
  simp [viewed]

@[simp]
theorem viewed_ofChanges (changes : List CellChange) : viewed view (ofChanges changes) =
    changes.filterMap fun change => view (.cell change.position change.owner) := by
  simp [viewed, ofChanges, event?, List.filterMap_map, Function.comp_def]

variable {view}

theorem viewed_surface (noErrors : ∀ error, view (.error error) = none) (error : SyncError) :
    viewed view (surface error) = [] := by
  unfold surface
  split <;> simp [noErrors]

theorem viewed_ofChanges_of_none (noCells : ∀ position owner, view (.cell position owner) = none)
    (changes : List CellChange) : viewed view (ofChanges changes) = [] := by
  rw [viewed_ofChanges, List.filterMap_eq_nil_iff]
  exact fun change _ => noCells change.position change.owner

theorem viewed_clearing (noPreviews : view .previewCleared = none) (prediction : Prediction) :
    viewed view (clearing prediction) = [] := by
  unfold clearing
  split <;> simp [noPreviews]

end Effect

namespace Moment

/-- What the call tells the observers, in order. -/
def told (moment : Moment) : List UiEvent := moment.outcome.effects.filterMap Effect.event?

theorem filterMap_told {α : Type} (moment : Moment) (view : UiEvent → Option α) :
    moment.told.filterMap view = Effect.viewed view moment.outcome.effects := rfl

end Moment

namespace Session

variable (session : Session) (now : Instant)

/-- What a list of calls tells the observers, in order. -/
def told (calls : List Call) : List UiEvent := (session.history calls).flatMap Moment.told

/-- What has been picked last from a past is what the last call has told of it last, or else what
had been picked before. -/
theorem latest?_told_snoc {α : Type} (view : UiEvent → Option α) (past : List Moment)
    (last : Moment) :
    UiEvent.latest? view ((past ++ [last]).flatMap Moment.told) =
      (Effect.viewed view last.outcome.effects).getLast?.or
        (UiEvent.latest? view (past.flatMap Moment.told)) := by
  rw [List.flatMap_append, UiEvent.latest?_append, List.flatMap_singleton]
  rfl

theorem told_of_closed {session : Session} (isClosed : session.closed = true) (call : Call) :
    Moment.told ⟨session, call⟩ = [] := by
  simp [Moment.told, Moment.outcome, (step_of_closed isClosed call).2]

variable {α : Type} {view : UiEvent → Option α}

@[simp]
theorem viewed_askForSnapshot : Effect.viewed view (session.askForSnapshot now).2 = [] := by
  unfold askForSnapshot
  split <;> rfl

@[simp]
theorem viewed_passTurn : Effect.viewed view (session.passTurn now).2 = [] := by
  unfold passTurn
  split <;> rfl

theorem viewed_loseTurn (noPreviews : view .previewCleared = none) :
    Effect.viewed view session.loseTurn.2 = [] := by
  unfold loseTurn
  dsimp only
  split <;> simp [noPreviews]

theorem viewed_releaseConfirmed (noPreviews : view .previewCleared = none) :
    Effect.viewed view session.releaseConfirmed.2 = [] := by
  unfold releaseConfirmed
  split <;> simp [noPreviews]

/-- Of the signals of the clock those are seen that are shown. -/
theorem viewed_obeyAll (noPreviews : view .previewCleared = none)
    (noErrors : ∀ error, view (.error error) = none) (signals : List TurnSignal) :
    Effect.viewed view (session.obeyAll now signals).2 =
      (signals.filterMap TurnSignal.event?).filterMap view := by
  induction signals generalizing session with
  | nil => rfl
  | cons signal rest hypothesis =>
      simp only [obeyAll, Effect.viewed_append, hypothesis, List.filterMap_cons]
      cases signal with
      | display slot seconds =>
          cases seen : view (.turnDisplay (some slot) seconds) <;>
            simp [obey, TurnSignal.event?, seen]
      | previousTimedOut previous =>
          cases seen : view (.notice (.previousTurnTimedOut previous)) <;>
            simp [obey, TurnSignal.event?, seen]
      | localExpired => simp [obey, TurnSignal.event?, viewed_loseTurn _ noPreviews]
      | desync waited => simp [obey, TurnSignal.event?, Effect.viewed_surface noErrors]

theorem viewed_turnChanged (noPreviews : view .previewCleared = none)
    (noErrors : ∀ error, view (.error error) = none) (change : TurnClock.Change) :
    Effect.viewed view (session.turnChanged change now).2 =
      ((session.turn.change change now).2.filterMap TurnSignal.event?).filterMap view := by
  simp only [turnChanged, Effect.viewed_append, viewed_releaseConfirmed _ noPreviews,
    viewed_obeyAll _ now noPreviews noErrors, List.nil_append]
  generalize (releaseConfirmed _).1 = released
  split
  · rfl
  · rw [viewed_loseTurn _ noPreviews, List.nil_append]

end Session

end TileMatch
