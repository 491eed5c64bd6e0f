import TileMatch.Proofs.Session.PlayableTurn

/-!
# Why an input is refused

Three things decide what becomes of an input of the local player: what is pending, whether the local
turn is open at the time, and the verdict on the preview (`Session.step_confirm`). So the reasons
that an input is refused for exclude each other, and each of them is the only one in its case.

A refused input leaves no trace, but for a confirmation that comes too late, which drops the
preview.
-/

namespace TileMatch

/-- Why an input of the local player is refused, if it is. -/
def Answer.refusal? : Answer → Option PredictionError
  | input (.error error) | confirmed (.error error) => some error
  | _ => none

namespace Session

/-- A confirmed placement waits for the server. -/
def IsWaiting (session : Session) : Prop :=
  ∃ request key, session.prediction = .confirmed request key

/-- A preview is shown. -/
def IsPreviewing (session : Session) : Prop := ∃ preview, session.prediction = .previewing preview

/-- The turn of the local player runs, and its deadline lies ahead. -/
def HasOpenTurn (session : Session) (now : Instant) : Prop :=
  ∃ countdown, session.turn.phase = .active (some countdown) ∧
    countdown.slot = session.localSlot ∧ now < countdown.deadline

variable {session : Session} {now : Instant}

theorem isWaiting_iff : session.IsWaiting ↔ session.prediction.isAwaiting = true := by
  unfold IsWaiting
  cases session.prediction <;> simp

theorem hasOpenTurn_iff : session.HasOpenTurn now ↔ session.turn.localTurnOpen now = true :=
  (session.turn.localTurnOpen_iff now).symm

/-! ## The reasons -/

/-- How the inputs of the local player are answered at a time. -/
structure AnswersInputs (session : Session) (now : Instant) : Prop where
  select_awaiting (shape : Shape) (anchor : Position) :
    (session.step (.select shape anchor now)).answer = .input (.error .awaitingServer) ↔
      session.IsWaiting
  select_notLocalTurn (shape : Shape) (anchor : Position) :
    (session.step (.select shape anchor now)).answer = .input (.error .notLocalTurn) ↔
      ¬session.IsWaiting ∧ ¬session.HasOpenTurn now
  select_accepted (shape : Shape) (anchor : Position) :
    (session.step (.select shape anchor now)).answer = .input (.ok ()) ↔
      ¬session.IsWaiting ∧ session.HasOpenTurn now
  confirm_nothing :
    (session.step (.confirm now)).answer = .confirmed (.error .noActivePreview) ↔
      session.prediction = .idle
  confirm_duplicate :
    (session.step (.confirm now)).answer = .confirmed (.error .duplicateSubmission) ↔
      session.IsWaiting
  confirm_stale :
    (session.step (.confirm now)).answer = .confirmed (.error .staleTurnAttempt) ↔
      session.IsPreviewing ∧ ¬session.HasOpenTurn now
  confirm_invalid :
    (session.step (.confirm now)).answer = .confirmed (.error .locallyInvalid) ↔
      ∃ preview, session.prediction = .previewing preview ∧ session.HasOpenTurn now ∧
        preview.locallyValid = false
  confirm_accepted :
    (∃ request, (session.step (.confirm now)).answer = .confirmed (.ok request)) ↔
      ∃ preview, session.prediction = .previewing preview ∧ session.HasOpenTurn now ∧
        preview.locallyValid = true
  cancel_accepted :
    (session.step .cancel).answer = .input (.ok ()) ↔ session.IsPreviewing

theorem answersInputs (inStep : session.KeysInStep) (isOpen : session.closed = false)
    (now : Instant) : session.AnswersInputs now := by
  have selected (shape : Shape) (anchor : Position) :=
    congrArg Outcome.answer (step_select isOpen shape anchor now)
  have confirmed := congrArg Outcome.answer (step_confirm inStep isOpen now)
  have cancelled := congrArg Outcome.answer (step_cancel isOpen)
  constructor
  case select_awaiting | select_notLocalTurn | select_accepted =>
    intro shape anchor
    simp only [selected, isWaiting_iff, hasOpenTurn_iff]
    cases session.prediction.isAwaiting with
    | true => simp
    | false => cases session.turn.localTurnOpen now <;> simp
  case cancel_accepted =>
    simp only [cancelled, IsPreviewing]
    cases session.prediction <;> simp
  -- What is pending decides about a confirmation, then the turn, and the verdict last.
  case confirm_nothing | confirm_duplicate | confirm_stale | confirm_invalid | confirm_accepted =>
    simp only [confirmed, hasOpenTurn_iff, IsWaiting, IsPreviewing]
    cases session.prediction with
    | idle | confirmed => simp
    | previewing preview =>
        cases session.turn.localTurnOpen now with
        | false => simp
        | true => cases valid : preview.locallyValid <;> simp [valid]

/-- Which inputs of the local player panic at a time, when keys last for a lifetime. -/
structure PanicsOverInputs (session : Session) (lifetime : Duration) (now : Instant) : Prop where
  select_iff (arithmetic : Arithmetic) (shape : Shape) (anchor : Position) :
    session.call? arithmetic (.select shape anchor now) = none ↔
      arithmetic = .checked ∧ ¬session.IsWaiting ∧ session.HasOpenTurn now ∧
        shape.outgrows anchor = true
  confirm_iff (arithmetic : Arithmetic) : session.call? arithmetic (.confirm now) = none ↔
    (∃ preview, session.prediction = .previewing preview ∧ session.HasOpenTurn now ∧
      preview.locallyValid = true) ∧ Instant.limit ≤ now + lifetime
  cancel_returns (arithmetic : Arithmetic) : session.call? arithmetic .cancel ≠ none

theorem panicsOverInputs (inStep : session.KeysInStep) (isOpen : session.closed = false)
    (now : Instant) : session.PanicsOverInputs session.ledger.lifetime now where
  select_iff arithmetic shape anchor := by
    rw [call?_select_eq_none_iff isOpen, isWaiting_iff, hasOpenTurn_iff, Bool.not_eq_true]
  confirm_iff arithmetic := by
    rw [call?_confirm_eq_none_iff, (answersInputs inStep isOpen now).confirm_accepted]
  cancel_returns _ := call?_cancel_ne_none

/-! ## What a refused input leaves behind -/

variable {call : Call}

theorem untouched_of_refused {error : PredictionError} (isOpen : session.closed = false)
    (refused : (session.step call).answer.refusal? = some error)
    (inTime : error ≠ .staleTurnAttempt) :
    (session.step call).session = session ∧ (session.step call).effects = [] := by
  have stepped := stepped_of_isOpen isOpen call
  generalize session.step call = outcome at stepped refused ⊢
  cases stepped with
  | selectRefused | confirmRefused | cancelRefused => exact ⟨rfl, rfl⟩
  | confirmStale =>
      cases refused
      exact absurd rfl inTime
  | _ => cases refused

theorem preview_dropped_of_stale (inStep : session.KeysInStep) (isOpen : session.closed = false)
    (stale : (session.step call).answer.refusal? = some .staleTurnAttempt) :
    (session.step call).session = { session with prediction := .idle } ∧
      (session.step call).effects = [.tell .previewCleared] := by
  cases call with
  | confirm now =>
      rw [step_confirm inStep isOpen now] at stale ⊢
      split at stale
      case h_1 | h_2 => cases stale
      case h_3 preview active =>
        cases turnOpen : session.turn.localTurnOpen now with
        | false => exact ⟨rfl, rfl⟩
        | true =>
            cases valid : preview.locallyValid <;>
              simp [turnOpen, valid, Answer.refusal?] at stale
  | select shape anchor now =>
      rw [step_select isOpen shape anchor now] at stale
      repeat' split at stale
      all_goals cases stale
  | cancel =>
      rw [step_cancel isOpen] at stale
      split at stale <;> cases stale
  | handle | tick | requestResync | leave => cases stale

/-- In every open session of a run that joined a room, and at every time: a selection is refused
because a placement waits, and else because the local turn is not open; a confirmation is refused
because nothing is pending, because a placement waits, because the local turn is not open or because
the preview was found illegal, in this order; a cancellation is refused without a preview. For no
other reason is any of them refused. A refusal leaves the session as it was and has no effects,
except that a confirmation which comes too late drops the preview and tells so. But a confirmation
that is not refused panics if the clock ends within a lifetime of keys, and a selection does if
coordinates are checked and one outgrows its width. -/
theorem inputs_refused_for_reason {roomId : String} {number : Int} {timing : Timing}
    {legality : LegalityRule} (joined : join roomId number timing legality = .ok session)
    (calls : List Call) (isOpen : (session.after calls).closed = false) (now : Instant) :
    (session.after calls).AnswersInputs now ∧
    (session.after calls).PanicsOverInputs timing.lifetime now ∧
    ∀ call error, ((session.after calls).step call).answer.refusal? = some error →
      (error ≠ .staleTurnAttempt →
        ((session.after calls).step call).session = session.after calls ∧
        ((session.after calls).step call).effects = []) ∧
      (error = .staleTurnAttempt →
        ((session.after calls).step call).session =
          { session.after calls with prediction := .idle } ∧
        ((session.after calls).step call).effects = [.tell .previewCleared]) := by
  have inStep := KeysInStep.after_join joined calls
  have panics := panicsOverInputs inStep isOpen now
  rw [lifetime_after_join joined] at panics
  refine ⟨answersInputs inStep isOpen now, panics, fun call error refused => ⟨?_, ?_⟩⟩
  · exact untouched_of_refused isOpen refused
  · rintro rfl
    exact preview_dropped_of_stale inStep isOpen refused

/-- A run that ends with a preview which the rule finds illegal. -/
def illegalPreview : List Call :=
  [.handle (.turnChanged 1 none (.ofBits 0x41f00000) false 1) 0,
    .select ⟨.single, .none, .none⟩ ⟨0, 0⟩ 1]

theorem illegalPreview_refused : ∃ session,
    join "room" 1 .standard (.constant false) = .ok session ∧
    let previewed := session.after illegalPreview
    (previewed.step (.confirm 2)).answer = .confirmed (.error .locallyInvalid) ∧
    (previewed.step (.confirm 2)).session = previewed ∧
    (previewed.step (.confirm (Duration.ofSeconds 30))).session =
      { previewed with prediction := .idle } := by
  have joined : join "room" 1 .standard (.constant false) = .ok _ := rfl
  refine ⟨_, joined, ?_⟩
  intro previewed
  have law := inputs_refused_for_reason joined illegalPreview rfl 2
  have invalid := law.1.confirm_invalid.mpr ⟨_, rfl, ⟨_, rfl, rfl, by decide +kernel⟩, rfl⟩
  refine ⟨invalid, ?_, ?_⟩
  · exact ((law.2.2 _ _ (congrArg Answer.refusal? invalid)).1 (by decide)).1
  · exact ((law.2.2 (.confirm (Duration.ofSeconds 30)) _ rfl).2 rfl).1

/-- With a lifetime of keys beyond the end of the clock, a confirmation without a reason to be
refused panics. -/
theorem confirmation_unanswered : ∃ settings session,
    Settings.ofText? "(game: (dedup_ttl_seconds: 1e19))" = some settings ∧
    join "room" 1 settings.game.timing .occupancy = .ok session ∧
    let turned := (session.step
      (.handle (.turnChanged 1 none (.ofBits 0x41200000) false 1) 0)).session
    let previewed := (turned.step (.select ⟨.single, .none, .none⟩ ⟨3, 4⟩ 0)).session
    (∃ preview, previewed.prediction = .previewing preview ∧ preview.locallyValid = true) ∧
    previewed.turn.localTurnOpen 0 = true ∧
    ∀ arithmetic, previewed.call? arithmetic (.confirm 0) = none := by
  rcases Settings.unending_accepted with ⟨settings, accepted, timing⟩
  refine ⟨settings, ?_⟩
  rw [timing]
  refine ⟨_, accepted, rfl, ⟨_, rfl, by decide +kernel⟩, by decide +kernel, fun arithmetic => ?_⟩
  exact call?_eq_none_of_outlasts (by decide +kernel) arithmetic

end Session

end TileMatch
