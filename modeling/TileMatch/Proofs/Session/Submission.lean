import TileMatch.Proofs.Session.History

/-!
# Submission of placements

A placement is sent by a confirmation and by nothing else, while the local turn is open, and it is
the one that was selected last and found legal then. After it nothing more is sent until the server
has answered or has moved on, and the player has selected again.

The preview of a session is always the work of the last selection (`PreviewFromLastSelection`),
which gives the first half. For the second, a session that waits for the server does so until the
placement is settled and has no preview meanwhile (`settled_of_awaiting`), and a preview comes from
a selection only (`preview_before`).
-/

namespace TileMatch

namespace ServerEvent

/-- The event answers a placement, or shows that the match has gone on without it. -/
def IsSettling : ServerEvent → Prop
  | cellsPlaced _ _ _ _ | placementRejected _ | turnChanged _ _ _ _ _ | gameStarted | gameEnded _ =>
      True
  | _ => False

end ServerEvent

namespace Moment

/-- The call selects a shape at an anchor, with success. -/
def Selects (moment : Moment) (shape : Shape) (anchor : Position) : Prop :=
  (∃ now, moment.call = .select shape anchor now) ∧ moment.answer = .input (.ok ())

/-- The call selects something, with success. -/
def IsSelection (moment : Moment) : Prop := ∃ shape anchor, moment.Selects shape anchor

/-- The call handles, with success and before the session is closed, an event that settles a
placement. -/
def Settles (moment : Moment) : Prop :=
  moment.before.closed = false ∧ moment.answer = .handled (.ok ()) ∧
    ∃ event now, moment.call = .handle event now ∧ event.IsSettling

/-- The call sends a placement. -/
def SendsPlacement (moment : Moment) : Prop := ∃ request, .placement request ∈ moment.sent

end Moment

namespace Session

/-- A placement is sent by a confirmation in an open turn, of a preview that was found legal. -/
theorem confirm_of_placement_sent {session : Session} {call : Call} {request : PlacementRequest}
    (sent : .send (.placement request) ∈ (session.step call).effects) :
    ∃ now preview, call = .confirm now ∧ session.closed = false ∧
      session.prediction = .previewing preview ∧ session.turn.localTurnOpen now = true ∧
      preview.locallyValid = true ∧
      request = .ofShape session.localSlot preview.shape preview.anchor ∧
      (session.step call).effects = [.send (.placement request)] ∧
      (session.step call).session.prediction.isAwaiting = true := by
  cases isClosed : session.closed with
  | true =>
      rw [(step_of_closed isClosed call).2] at sent
      exact absurd sent List.not_mem_nil
  | false =>
      have stepped := stepped_of_isOpen isClosed call
      generalize session.step call = outcome at stepped sent ⊢
      cases stepped with
      | confirmed now preview made ledger active turnOpen valid began shape =>
          simp only [List.mem_singleton, Effect.send.injEq, OutboundRequest.placement.injEq] at sent
          subst sent
          exact ⟨now, preview, rfl, rfl, active, turnOpen, valid, shape, rfl, rfl⟩
      | turnChanged => exact absurd sent (send_notMem_turnChanged _ _ _ _)
      | ticked =>
          rcases request_of_mem_obeyAll _ _ sent with impossible | impossible <;> cases impossible
      | _ =>
          simp [gameStarted, cellsPlaced, placementRejected, gameEnded, disconnected, teardown]
            at sent

theorem prediction_of_sendsPlacement {moment : Moment} (sends : moment.SendsPlacement) :
    moment.before.closed = false ∧
      (∃ preview, moment.before.prediction = .previewing preview) ∧
      moment.after.prediction.isAwaiting = true := by
  rcases sends with ⟨request, placement_mem⟩
  rcases confirm_of_placement_sent (Moment.mem_sent_iff.mp placement_mem) with
    ⟨_, preview, _, isOpen, active, _, _, _, _, awaiting⟩
  exact ⟨isOpen, ⟨preview, active⟩, awaiting⟩

/-- A successful selection leaves the preview of what was selected, on the board as it is. -/
theorem prediction_of_selects {moment : Moment} {shape : Shape} {anchor : Position}
    (selects : moment.Selects shape anchor) :
    moment.before.prediction.isAwaiting = false ∧ moment.after.prediction = .previewing
      (Prediction.previewOf moment.before.legality moment.before.grid shape anchor) := by
  rcases moment with ⟨session, call⟩
  rcases selects with ⟨⟨now, rfl⟩, success⟩
  simp only [Moment.after, Moment.answer, Moment.outcome] at success ⊢
  cases isClosed : session.closed with
  | true => simp [step, select, isClosed] at success
  | false =>
      have stepped := stepped_of_isOpen isClosed (.select shape anchor now)
      generalize session.step (.select shape anchor now) = outcome at stepped success ⊢
      cases stepped with
      | selected _ _ _ preview free turnOpen shown =>
          rw [shown]
          exact ⟨free, rfl⟩
      | selectRefused => simp at success

/-- A preview after a call that is no successful selection was there before. -/
theorem preview_before (moment : Moment) {preview : Preview}
    (active : moment.after.prediction = .previewing preview) (noSelection : ¬moment.IsSelection) :
    moment.before.prediction = .previewing preview := by
  rcases moment with ⟨session, call⟩
  simp only [Moment.IsSelection, Moment.Selects, Moment.after, Moment.answer, Moment.outcome]
    at active noSelection ⊢
  cases isClosed : session.closed with
  | true => rwa [(step_of_closed isClosed call).1] at active
  | false =>
      have stepped := stepped_of_isOpen isClosed call
      generalize session.step call = outcome at stepped active noSelection
      cases stepped with
      | selected shape anchor now => exact absurd ⟨shape, anchor, ⟨now, rfl⟩, rfl⟩ noSelection
      | turnChanged =>
          rw [turnChanged_fst] at active
          dsimp only at active
          split at active
          · exact Prediction.afterTurnChange_eq_previewing_iff.mp active
          · exact absurd active (Prediction.afterTurnLost_ne_previewing _ _)
      | ticked now swept ran =>
          rw [obeyAll_prediction, ran] at active
          split at active
          · exact absurd active (Prediction.afterTurnLost_ne_previewing _ _)
          · exact active
      | dropped | roomChanged | snapshotAccepted | snapshotRefused | selectRefused | confirmRefused
      | cancelRefused | asked | notAsked => exact active
      | _ => simp [gameStarted, cellsPlaced, placementRejected, gameEnded, teardown] at active

/-- A placement that waits goes on to wait until it is settled or the session is closed. -/
theorem settled_of_awaiting (moment : Moment) (isOpen : moment.before.closed = false)
    (awaiting : moment.before.prediction.isAwaiting = true) :
    moment.after.prediction.isAwaiting = true ∨ moment.after.closed = true ∨ moment.Settles := by
  rcases moment with ⟨session, call⟩
  simp only [Moment.Settles, Moment.after, Moment.answer, Moment.outcome] at isOpen awaiting ⊢
  have stepped := stepped_of_isOpen isOpen call
  generalize session.step call = outcome at stepped
  cases stepped with
  | gameStarted now => exact .inr (.inr ⟨isOpen, rfl, _, now, rfl, trivial⟩)
  | turnChanged _ _ _ _ _ now => exact .inr (.inr ⟨isOpen, rfl, _, now, rfl, trivial⟩)
  | cellsPlaced _ _ _ _ now => exact .inr (.inr ⟨isOpen, rfl, _, now, rfl, trivial⟩)
  | placementRejected _ now => exact .inr (.inr ⟨isOpen, rfl, _, now, rfl, trivial⟩)
  | gameEnded _ now => exact .inr (.inr ⟨isOpen, rfl, _, now, rfl, trivial⟩)
  | disconnected | roomLeft | left => exact .inr (.inl rfl)
  | selected _ _ _ _ free => simp [free] at awaiting
  | confirmed _ _ _ _ active => simp [active] at awaiting
  | confirmStale _ _ active => simp [active] at awaiting
  | cancelled _ active => simp [active] at awaiting
  | ticked now swept ran =>
      left
      rw [obeyAll_prediction, ran]
      split
      · rwa [Prediction.isAwaiting_afterTurnLost]
      · exact awaiting
  | dropped | roomChanged | snapshotAccepted | snapshotRefused | selectRefused | confirmRefused
  | cancelRefused | asked | notAsked => exact .inl awaiting

theorem not_previewing_of_awaiting (moment : Moment)
    (awaiting : moment.before.prediction.isAwaiting = true) (preview : Preview) :
    moment.after.prediction ≠ .previewing preview := by
  intro active
  have noSelection : ¬moment.IsSelection := by
    rintro ⟨shape, anchor, selects⟩
    have free := (prediction_of_selects selects).1
    simp [awaiting] at free
  have before := preview_before moment active noSelection
  simp [before] at awaiting

theorem isOpen_of_placement_sent (session : Session) (calls : List Call) (call : Call)
    (sends : Moment.SendsPlacement ⟨session.after calls, call⟩) : session.closed = false :=
  isOpen_of_after (prediction_of_sendsPlacement sends).1

/-- Without a preview nothing is sent before a selection. -/
theorem exists_selection_of_placement_sent {session : Session} {calls : List Call} {call : Call}
    (noPreview : ∀ preview, session.prediction ≠ .previewing preview)
    (sends : Moment.SendsPlacement ⟨session.after calls, call⟩) :
    ∃ selection ∈ session.history calls, selection.IsSelection := by
  induction calls generalizing session with
  | nil =>
      rcases prediction_of_sendsPlacement sends with ⟨_, ⟨preview, active⟩, _⟩
      exact absurd active (noPreview preview)
  | cons first rest hypothesis =>
      by_cases selects : Moment.IsSelection ⟨session, first⟩
      · exact ⟨_, List.mem_cons_self, selects⟩
      · have stillNone : ∀ preview,
            (Moment.after ⟨session, first⟩).prediction ≠ .previewing preview :=
          fun preview active => noPreview preview (preview_before ⟨session, first⟩ active selects)
        rcases hypothesis stillNone sends with ⟨selection, selection_mem, selects⟩
        exact ⟨selection, List.mem_cons_of_mem _ selection_mem, selects⟩

/-- While a placement waits nothing is sent before it is settled and something is selected. -/
theorem exists_settling_selection_of_placement_sent {session : Session} {calls : List Call}
    {call : Call} (awaiting : session.prediction.isAwaiting = true)
    (sends : Moment.SendsPlacement ⟨session.after calls, call⟩) :
    ∃ settling selection, [settling, selection].Sublist (session.history calls) ∧
      settling.Settles ∧ selection.IsSelection := by
  induction calls generalizing session with
  | nil =>
      rcases prediction_of_sendsPlacement sends with ⟨_, ⟨preview, active⟩, _⟩
      simp only [after_nil] at active
      simp [active] at awaiting
  | cons first rest hypothesis =>
      have isOpen := isOpen_of_placement_sent session (first :: rest) call sends
      rcases settled_of_awaiting ⟨session, first⟩ isOpen awaiting with
        stillAwaiting | isClosed | settles
      -- Of the three ways out of waiting, a closed session sends nothing any more, and a settled
      -- placement leaves no preview behind, so that a selection has to follow.
      · rcases hypothesis stillAwaiting sends with ⟨settling, selection, sublist, settled⟩
        exact ⟨settling, selection, sublist.cons _, settled⟩
      · have stillOpen := isOpen_of_placement_sent (session.step first).session rest call sends
        exact absurd (isClosed.symm.trans stillOpen) (by simp)
      · have noPreview := not_previewing_of_awaiting ⟨session, first⟩ awaiting
        rcases exists_selection_of_placement_sent noPreview sends with
          ⟨selection, selection_mem, selects⟩
        exact ⟨⟨session, first⟩, selection,
          (List.singleton_sublist.mpr selection_mem).cons_cons _, settles, selects⟩

/-- The preview of a session is what the last selection of its past selected, with the verdict on
the board of that time. -/
def PreviewFromLastSelection (legality : LegalityRule) (seat : Slot) (past : List Moment)
    (session : Session) : Prop :=
  session.legality = legality ∧ session.localSlot = seat ∧
    ∀ preview, session.prediction = .previewing preview → ∃ selection since,
      LastWith Moment.IsSelection past selection since ∧
        selection.Selects preview.shape preview.anchor ∧
        preview.locallyValid = legality preview.shape preview.anchor selection.before.grid

theorem previewFromLastSelection_step {legality : LegalityRule} {seat : Slot}
    {past : List Moment} {session : Session}
    (holds : PreviewFromLastSelection legality seat past session) (call : Call) :
    PreviewFromLastSelection legality seat (past ++ [⟨session, call⟩])
      (session.step call).session := by
  rcases holds with ⟨sameRule, sameSeat, fromSelection⟩
  refine ⟨(session.step_legality call).trans sameRule,
    (session.step_localSlot call).trans sameSeat, ?_⟩
  intro preview active
  by_cases isSelection : Moment.IsSelection ⟨session, call⟩
  · refine ⟨_, _, LastWith.of_property past isSelection, ?_⟩
    rcases isSelection with ⟨shape, anchor, selects⟩
    have selected := (prediction_of_selects selects).2
    simp only [Moment.after, Moment.outcome, active, Prediction.previewing.injEq] at selected
    subst selected
    exact ⟨selects, by simp [Prediction.previewOf, sameRule]⟩
  · rcases fromSelection preview (preview_before ⟨session, call⟩ active isSelection) with
      ⟨selection, since, last, selects, verdict⟩
    exact ⟨selection, since ++ [⟨session, call⟩], last.snoc isSelection, selects, verdict⟩

/-- For every run of a session that joined a room: a placement is sent alone, by a confirmation,
while the session is open and the local turn runs; it is the local player's and is the shape and
the anchor of the last selection, which the rule had accepted on the board as it was then; and
between two placements an event settles the first, and a selection follows that event. -/
theorem placement_sent_once_per_selection {roomId : String} {number : Int} {timing : Timing}
    {legality : LegalityRule} {session : Session}
    (joined : join roomId number timing legality = .ok session) (calls : List Call) :
    (∀ past moment later request, session.history calls = past ++ moment :: later →
      .placement request ∈ moment.sent →
        moment.sent = [.placement request] ∧ moment.before.closed = false ∧
        (∃ now countdown, moment.call = .confirm now ∧
          moment.before.turn.phase = .active (some countdown) ∧
          countdown.slot = session.localSlot ∧ now < countdown.deadline) ∧
        request.slot = session.localSlot ∧
        ∃ selection since, LastWith Moment.IsSelection past selection since ∧
          selection.Selects request.shape request.anchor ∧
          legality request.shape request.anchor selection.before.grid = true) ∧
    ∀ earlier first between second later,
      session.history calls = earlier ++ first :: (between ++ second :: later) →
      first.SendsPlacement → second.SendsPlacement →
        ∃ settling selection, [settling, selection].Sublist between ∧
          settling.Settles ∧ selection.IsSelection := by
  constructor
  · intro past moment later request split placement_mem
    rcases exists_calls_of_history split with ⟨first, rest, rfl, rfl, atMoment, rfl⟩
    have fromSelection : PreviewFromLastSelection legality session.localSlot
        (session.history first) (session.after first) := by
      refine history_induction (PreviewFromLastSelection legality session.localSlot) ?_
        (fun _ _ call holds => previewFromLastSelection_step holds call) first
      rcases of_join joined with ⟨slot, _, rfl⟩
      exact ⟨rfl, rfl, by simp⟩
    rcases fromSelection with ⟨_, sameSeat, fromSelection⟩
    rcases confirm_of_placement_sent (Moment.mem_sent_iff.mp placement_mem) with
      ⟨now, preview, confirms, isOpen, active, turnOpen, valid, rfl, alone, _⟩
    rw [atMoment] at active turnOpen
    rcases fromSelection preview active with ⟨selection, since, last, selects, verdict⟩
    rcases (TurnClock.localTurnOpen_iff _ now).mp turnOpen with ⟨countdown, runs, ours, early⟩
    refine ⟨?_, isOpen, ⟨now, countdown, confirms, atMoment ▸ runs, ours.trans sameSeat, early⟩,
      ?_, selection, since, last, selects, verdict.symm.trans valid⟩
    · simp only [Moment.sent, Moment.outcome, alone]
      rfl
    · rw [atMoment]
      exact sameSeat
  · intro earlier first between second later split firstSends secondSends
    rcases exists_calls_of_history split with ⟨_, rest, _, _, _, laterSplit⟩
    rcases exists_calls_of_history laterSplit.symm with ⟨calls, _, _, rfl, atSecond, _⟩
    have awaiting := (prediction_of_sendsPlacement firstSends).2.2
    rcases second with ⟨before, call⟩
    rw [show before = first.after.after calls from atSecond] at secondSends
    exact exists_settling_selection_of_placement_sent awaiting secondSends

/-- A run in which a placement is rejected and another one is sent in its place. -/
def resubmission : List Call :=
  [.handle (.turnChanged 1 none (.ofBits 0x41f00000) false 1) 0,
    .select ⟨.single, .none, .none⟩ ⟨0, 0⟩ 1, .confirm 2,
    .handle (.placementRejected "overlap") 3,
    .select ⟨.single, .none, .none⟩ ⟨0, 1⟩ 4, .confirm 5]

theorem resubmission_after_settling :
    ∃ session, join "room" 1 .standard (.constant true) = .ok session ∧
      ∃ earlier first between second later,
        session.history resubmission = earlier ++ first :: (between ++ second :: later) ∧
        first.SendsPlacement ∧ second.SendsPlacement ∧
          ∃ settling selection, [settling, selection].Sublist between ∧
            settling.Settles ∧ selection.IsSelection := by
  have joined : join "room" 1 .standard (.constant true) = .ok _ := rfl
  have split (session : Session) : session.history resubmission =
      [_, _] ++ ⟨_, _⟩ :: ([_, _] ++ ⟨_, _⟩ :: []) := rfl
  refine ⟨_, joined, _, _, _, _, _, split _, ?firstSends, ?secondSends,
    (placement_sent_once_per_selection joined _).2 _ _ _ _ _ (split _) ?firstSends ?secondSends⟩
  case firstSends => exact ⟨⟨⟨0⟩, .single, ⟨0, 0⟩, .none, .none⟩, by decide +kernel⟩
  case secondSends => exact ⟨⟨⟨0⟩, .single, ⟨0, 1⟩, .none, .none⟩, by decide +kernel⟩

end Session

end TileMatch
