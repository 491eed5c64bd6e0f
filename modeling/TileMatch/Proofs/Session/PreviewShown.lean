import TileMatch.Proofs.Session.Audience
import TileMatch.Proofs.Session.Submission

/-!
# The preview that observers see

Many calls drop the local placement: a cancellation, a confirmation that comes too late, any
placement of the server and its refusal, the turns of others, the end of the local turn, the start
and the end of a game, and the end of the session. Each of them tells so, and nothing else tells so.

`Prediction.shown` is what a prediction looks like. Each part of a call that touches the prediction
tells what brings the screen up to date (`Session.Shows`), parts that follow each other do so
together (`Session.Shows.append`), and so does every call (`Session.shows_step`).
-/

namespace TileMatch

/-- The view that shows the preview. -/
def UiEvent.preview? : UiEvent → Option (List Position × PreviewValidity)
  | preview cells validity => some (cells, validity)
  | _ => none

/-- The tint of a preview that has been judged. -/
def PreviewValidity.ofVerdict (valid : Bool) : PreviewValidity := if valid then .valid else .invalid

namespace Prediction

/-- What is seen of a prediction: the preview in the tint of its verdict, and a placement that waits
for the server in that of a legal one. -/
def shown : Prediction → List Position × PreviewValidity
  | idle => ([], .cleared)
  | previewing preview => (preview.cells, .ofVerdict preview.locallyValid)
  | confirmed request _ => (request.shape.footprint request.anchor, .valid)

@[simp]
theorem shown_idle : idle.shown = ([], .cleared) := rfl

@[simp]
theorem shown_previewing (preview : Preview) :
    (previewing preview).shown = (preview.cells, .ofVerdict preview.locallyValid) := rfl

@[simp]
theorem shown_confirmed (request : PlacementRequest) (key : RequestKey) :
    (confirmed request key).shown = (request.shape.footprint request.anchor, .valid) := rfl

theorem shown_eq_cleared_iff {prediction : Prediction} :
    prediction.shown.2 = .cleared ↔ prediction = idle := by
  cases prediction with
  | idle => simp
  | previewing preview =>
      cases valid : preview.locallyValid <;> simp [PreviewValidity.ofVerdict, valid]
  | confirmed => simp

/-- The cells of a preview are those that its shape covers at its anchor. -/
def HasFootprint (prediction : Prediction) : Prop :=
  ∀ preview, prediction = previewing preview →
    preview.cells = preview.shape.footprint preview.anchor

theorem hasFootprint_idle : idle.HasFootprint := by
  intro preview active
  cases active

end Prediction

namespace Effect

variable (shown : List Position × PreviewValidity)

/-- The preview on the screen after some effects. -/
def reshown (effects : List Effect) : List Position × PreviewValidity :=
  (viewed UiEvent.preview? effects).getLast?.getD shown

@[simp]
theorem reshown_nil : reshown shown [] = shown := rfl

@[simp]
theorem reshown_append (first second : List Effect) :
    reshown shown (first ++ second) = reshown (reshown shown first) second := by
  simp [reshown, List.getLast?_append]

@[simp]
theorem reshown_tell (event : UiEvent) (rest : List Effect) :
    reshown shown (tell event :: rest) = reshown ((UiEvent.preview? event).getD shown) rest := by
  cases seen : UiEvent.preview? event <;> simp [reshown, seen, List.getLast?_cons]

@[simp]
theorem reshown_ofChanges (changes : List CellChange) :
    reshown shown (ofChanges changes) = shown := by
  rw [reshown, viewed_ofChanges_of_none fun _ _ => rfl]
  rfl

@[simp]
theorem reshown_surface (error : SyncError) : reshown shown (surface error) = shown := by
  rw [reshown, viewed_surface fun _ => rfl]
  rfl

@[simp]
theorem reshown_clearing (prediction : Prediction) :
    reshown prediction.shown (clearing prediction) = Prediction.idle.shown := by
  cases prediction <;> rfl

end Effect

namespace Session

/-- The effects bring the screen from the placement of one session to that of another. -/
def Shows (before after : Session) (effects : List Effect) : Prop :=
  Effect.reshown before.prediction.shown effects = after.prediction.shown

variable (session : Session) (now : Instant)

theorem Shows.append {before between after : Session} {first second : List Effect}
    (earlier : Shows before between first) (later : Shows between after second) :
    Shows before after (first ++ second) := by
  rw [Shows, Effect.reshown_append, earlier]
  exact later

/-! ## The parts of a call -/

theorem shows_askForSnapshot :
    Shows session (session.askForSnapshot now).1 (session.askForSnapshot now).2 := by
  unfold askForSnapshot
  split <;> rfl

theorem shows_passTurn : Shows session (session.passTurn now).1 (session.passTurn now).2 := by
  unfold passTurn
  split <;> rfl

theorem shows_loseTurn : Shows session session.loseTurn.1 session.loseTurn.2 := by
  rcases session with ⟨_, _, _, _, _, prediction, _, _⟩
  cases prediction <;> rfl

theorem shows_releaseConfirmed :
    Shows session session.releaseConfirmed.1 session.releaseConfirmed.2 := by
  rcases session with ⟨_, _, _, _, _, prediction, _, _⟩
  cases prediction <;> rfl

theorem shows_obey (signal : TurnSignal) :
    Shows session (session.obey now signal).1 (session.obey now signal).2 := by
  cases signal with
  | display => rfl
  | previousTimedOut => rfl
  | localExpired => exact session.shows_loseTurn.append (shows_passTurn _ now)
  | desync waited =>
      have reported : Shows session session (Effect.surface (.desyncDetected waited)) :=
        Effect.reshown_surface _ _
      exact reported.append (session.shows_askForSnapshot now)

theorem shows_obeyAll (signals : List TurnSignal) :
    Shows session (session.obeyAll now signals).1 (session.obeyAll now signals).2 := by
  induction signals generalizing session with
  | nil => rfl
  | cons signal rest hypothesis => exact (session.shows_obey now signal).append (hypothesis _)

theorem shows_turnChanged (change : TurnClock.Change) :
    Shows session (session.turnChanged change now).1 (session.turnChanged change now).2 := by
  simp only [turnChanged]
  refine Shows.append (Shows.append (shows_releaseConfirmed _) ?_) (shows_obeyAll _ now _)
  generalize (releaseConfirmed _).1 = released
  by_cases own : change.slot = released.localSlot
  · simp only [if_pos own]
    rfl
  · simp only [if_neg own]
    exact released.shows_loseTurn

theorem shows_clearing {session after : Session} (dropped : after.prediction = .idle) :
    Shows session after (Effect.clearing session.prediction) := by
  rw [Shows, Effect.reshown_clearing, dropped]

/-! ## Calls -/

theorem hasFootprint_step {session : Session} (footprint : session.prediction.HasFootprint)
    (call : Call) : (session.step call).session.prediction.HasFootprint := by
  intro preview active
  by_cases selection : Moment.IsSelection ⟨session, call⟩
  · rcases selection with ⟨shape, anchor, selects⟩
    cases active.symm.trans (prediction_of_selects selects).2
    rfl
  · exact footprint preview (preview_before ⟨session, call⟩ active selection)

/-- Every call tells what brings the preview on the screen up to date. -/
theorem shows_step {session : Session} (footprint : session.prediction.HasFootprint)
    (call : Call) : Shows session (session.step call).session (session.step call).effects := by
  cases isClosed : session.closed with
  | true =>
      rcases step_of_closed isClosed call with ⟨kept, silent⟩
      rw [kept, silent]
      rfl
  | false =>
      have stepped := stepped_of_isOpen isClosed call
      generalize session.step call = outcome at stepped ⊢
      cases stepped with
      | gameStarted => simp [Shows, gameStarted, UiEvent.preview?]
      | turnChanged _ _ _ _ _ now change => exact session.shows_turnChanged now change
      | snapshotAccepted => exact Effect.reshown_ofChanges _ _
      | cellsPlaced => simp [Shows, cellsPlaced]
      | placementRejected =>
          simp [Shows, placementRejected, UiEvent.preview?, UiEvent.previewCleared]
      | gameEnded => simp [Shows, gameEnded, UiEvent.preview?]
      | disconnected => simp [Shows, disconnected, teardown]
      | roomLeft | left => exact shows_clearing rfl
      | confirmed now preview request ledger active turnOpen valid began made =>
          rw [Shows, active, made]
          exact Prod.ext (footprint preview active) (congrArg PreviewValidity.ofVerdict valid)
      | ticked now swept ran =>
          subst ran
          exact shows_obeyAll _ now _
      | _ => rfl

theorem shown_after {roomId : String} {number : Int} {timing : Timing} {legality : LegalityRule}
    {session : Session} (joined : join roomId number timing legality = .ok session)
    (calls : List Call) :
    (UiEvent.latest? UiEvent.preview? (session.told calls)).getD Prediction.idle.shown =
        (session.after calls).prediction.shown ∧
      (session.after calls).prediction.HasFootprint := by
  refine history_induction (fun past session =>
    (UiEvent.latest? UiEvent.preview? (past.flatMap Moment.told)).getD Prediction.idle.shown =
      session.prediction.shown ∧ session.prediction.HasFootprint) ?_ ?_ calls
  · rcases of_join joined with ⟨slot, _, rfl⟩
    exact ⟨rfl, Prediction.hasFootprint_idle⟩
  · rintro past before call ⟨shown, footprint⟩
    refine ⟨?_, hasFootprint_step footprint call⟩
    rw [latest?_told_snoc, Option.getD_or, shown]
    exact shows_step footprint call

end Session

namespace Hall

variable {roomId : String} {number : Int} {timing : Timing} {legality : LegalityRule}
  {hall : Hall} {id : ObserverId}

/-- After every call, also after the one that closes the session, what an observer that has listened
from the beginning has been shown last is the local placement. It is cleared exactly if there is
none; of a preview it shows the cells of the footprint, tinted by the verdict, and of a placement
that waits for the server the footprint of what was sent, in the tint of a legal one. -/
theorem preview_eq_prediction
    (joined : Session.join roomId number timing legality = .ok hall.session)
    (opens : hall.OpensWith id) (calls : List HallCall) (stays : .unregister id ∉ calls) :
    (((UiEvent.latest? UiEvent.preview? (hall.heard id calls)).getD ([], .cleared)).2 = .cleared ↔
      (hall.after calls).session.prediction = .idle) ∧
    (∀ preview, (hall.after calls).session.prediction = .previewing preview →
      preview.cells = preview.shape.footprint preview.anchor ∧
      UiEvent.latest? UiEvent.preview? (hall.heard id calls) =
        some (preview.cells, if preview.locallyValid then .valid else .invalid)) ∧
    ∀ request key, (hall.after calls).session.prediction = .confirmed request key →
      UiEvent.latest? UiEvent.preview? (hall.heard id calls) =
        some (request.shape.footprint request.anchor, .valid) := by
  have invariant := Session.shown_after joined (calls.filterMap HallCall.session?)
  rw [heard_of_opensWith opens stays, session_after]
  generalize UiEvent.latest? UiEvent.preview? _ = latest at invariant ⊢
  generalize Session.prediction _ = prediction at invariant ⊢
  rcases invariant with ⟨shown, footprint⟩
  -- Something has been shown unless there is no placement.
  have present (busy : prediction ≠ .idle) : latest = some prediction.shown := by
    cases latest with
    | none => exact absurd (Prediction.shown_eq_cleared_iff.mp (congrArg Prod.snd shown.symm)) busy
    | some last => exact congrArg some shown
  refine ⟨?_, ?_, ?_⟩
  · rw [← Prediction.shown_eq_cleared_iff, ← shown]
    rfl
  · rintro preview rfl
    exact ⟨footprint preview rfl, present nofun⟩
  · rintro request key rfl
    exact present nofun

/-- A preview in the local player's turn. -/
def previewInTurn : List HallCall :=
  [.session (.handle (.turnChanged 1 none (.ofBits 0x41f00000) false 1) 0), .register false,
    .session (.select ⟨.single, .none, .none⟩ ⟨2, 3⟩ 1)]

theorem preview_shown_until_departure : ∃ hall : Hall,
    Session.join "room" 1 .standard (.constant true) = .ok hall.session ∧ hall.OpensWith 0 ∧
    UiEvent.latest? UiEvent.preview? (hall.heard 0 previewInTurn) =
      some ([⟨2, 3⟩], .valid) ∧
    ((UiEvent.latest? UiEvent.preview?
      (hall.heard 0 (previewInTurn ++ [.session .leave]))).getD ([], .cleared)).2 = .cleared := by
  have joined : Session.join "room" 1 .standard (.constant true) =
      .ok (Hall.mk _ (Audience.empty.register false).1).session := rfl
  refine ⟨_, joined, opensWith_first _, ?_, ?_⟩
  · have fact := preview_eq_prediction joined (opensWith_first _) previewInTurn (by decide)
    exact (fact.2.1 ⟨⟨.single, .none, .none⟩, ⟨2, 3⟩, [⟨2, 3⟩], true⟩ (by decide +kernel)).2
  · have fact := preview_eq_prediction joined (opensWith_first _)
      (previewInTurn ++ [.session .leave]) (by decide)
    exact fact.1.mpr (by decide +kernel)

end Hall

end TileMatch
