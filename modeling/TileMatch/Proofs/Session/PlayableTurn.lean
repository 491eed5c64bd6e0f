import TileMatch.Proofs.Session.KeysInFlight
import TileMatch.Proofs.Session.PlacementInTurn

/-!
# A new turn can be played

What becomes of an input of the local player is decided by what is pending, by the local turn and by
the verdict on the preview (`Session.step_select`, `Session.step_confirm`, `Session.step_cancel`).
The ledger has no say in it, although a confirmation begins the key of its placement: no such key is
held unless a placement waits (`KeysInStep`).

A turn change to the local player gives up the placement that waits, and opens the turn until its
deadline. So nothing that the session has been through before can spoil a turn
(`Session.new_turn_playable`). Only a lifetime of keys can that is longer than the clock: then the
first confirmation panics.
-/

namespace TileMatch

namespace Session

variable {session : Session} {now : Instant}

/-! ## What an input comes to -/

theorem step_select (isOpen : session.closed = false) (shape : Shape) (anchor : Position)
    (now : Instant) : session.step (.select shape anchor now) =
      if session.prediction.isAwaiting then ⟨session, [], .input (.error .awaitingServer)⟩
      else if session.turn.localTurnOpen now then
        let preview := Prediction.previewOf session.legality session.grid shape anchor
        ⟨{ session with prediction := .previewing preview },
          [.tell (.preview preview.cells (if preview.locallyValid then .valid else .invalid))],
          .input (.ok ())⟩
      else ⟨session, [], .input (.error .notLocalTurn)⟩ := by
  have notClosed : ¬session.closed = true := by simp [isOpen]
  simp only [step, select, if_neg notClosed, Prediction.select]
  cases session.prediction.isAwaiting with
  | true => rfl
  | false => cases session.turn.localTurnOpen now <;> rfl

/-- What is pending, the turn and the verdict decide alone what a confirmation comes to. -/
theorem step_confirm (inStep : session.KeysInStep) (isOpen : session.closed = false)
    (now : Instant) : session.step (.confirm now) =
      match session.prediction with
      | .idle => ⟨session, [], .confirmed (.error .noActivePreview)⟩
      | .confirmed _ _ => ⟨session, [], .confirmed (.error .duplicateSubmission)⟩
      | .previewing preview =>
        if session.turn.localTurnOpen now then
          if preview.locallyValid then
            let request := PlacementRequest.ofShape session.localSlot preview.shape preview.anchor
            let key := RequestKey.placement session.localSlot preview.anchor preview.shape.piece
            ⟨{ session with
                prediction := .confirmed request key
                ledger := session.ledger.hold key (now + session.ledger.lifetime) },
              [.send (.placement request)], .confirmed (.ok request)⟩
          else ⟨session, [], .confirmed (.error .locallyInvalid)⟩
        else
          ⟨{ session with prediction := .idle }, [.tell .previewCleared],
            .confirmed (.error .staleTurnAttempt)⟩ := by
  have notClosed : ¬session.closed = true := by simp [isOpen]
  simp only [step, confirm, if_neg notClosed]
  cases active : session.prediction with
  | idle =>
      simp only [Prediction.confirm]
      rw [← active]
  | confirmed request key =>
      simp only [Prediction.confirm]
      rw [← active]
  | previewing preview =>
      have free : session.ledger.holds
          (.placement session.localSlot preview.anchor preview.shape.piece) = false :=
        inStep.not_holds_placement (by simp [active]) rfl
      have began := Ledger.begin?_of_not_holds free now
      simp only [Prediction.confirm, began]
      cases session.turn.localTurnOpen now with
      | false => rfl
      | true =>
          cases valid : preview.locallyValid with
          | true => rfl
          | false =>
              simp only [Bool.not_true, Bool.not_false, Bool.false_eq_true, if_true, if_false]
              rw [← active]

theorem step_cancel (isOpen : session.closed = false) : session.step .cancel =
    match session.prediction with
    | .previewing _ =>
      ⟨{ session with prediction := .idle }, [.tell .previewCleared], .input (.ok ())⟩
    | .idle => ⟨session, [], .input (.error .noActivePreview)⟩
    | .confirmed _ _ => ⟨session, [], .input (.error .awaitingServer)⟩ := by
  have notClosed : ¬session.closed = true := by simp [isOpen]
  simp only [step, cancel, if_neg notClosed]
  cases session.prediction <;> rfl

/-! ## What the inputs of a player need -/

/-- A selection is accepted exactly if no placement waits and the local turn is open. -/
theorem select_accepted_iff (isOpen : session.closed = false) (shape : Shape)
    (anchor : Position) (now : Instant) :
    (session.step (.select shape anchor now)).answer = .input (.ok ()) ↔
      session.prediction.isAwaiting = false ∧ session.turn.localTurnOpen now = true := by
  rw [step_select isOpen]
  cases session.prediction.isAwaiting with
  | true => simp
  | false => cases session.turn.localTurnOpen now <;> simp

theorem select_refused_of_awaiting (isOpen : session.closed = false)
    (awaiting : session.prediction.isAwaiting = true) (shape : Shape) (anchor : Position)
    (now : Instant) : (session.step (.select shape anchor now)).answer =
      .input (.error .awaitingServer) := by
  rw [step_select isOpen, if_pos awaiting]

/-- An accepted selection changes nothing but the preview. -/
theorem session_of_select_accepted {shape : Shape} {anchor : Position}
    (isOpen : session.closed = false)
    (accepted : (session.step (.select shape anchor now)).answer = .input (.ok ())) :
    (session.step (.select shape anchor now)).session = { session with
      prediction := .previewing
        (Prediction.previewOf session.legality session.grid shape anchor) } := by
  rcases (select_accepted_iff isOpen shape anchor now).mp accepted with ⟨free, turnOpen⟩
  rw [step_select isOpen, if_neg (by simp [free]), if_pos turnOpen]

/-- A legal preview in an open local turn is sent. -/
theorem confirm_accepted (inStep : session.KeysInStep) (isOpen : session.closed = false)
    (preview : Preview) (active : session.prediction = .previewing preview)
    (valid : preview.locallyValid = true) (turnOpen : session.turn.localTurnOpen now = true) :
    let request := PlacementRequest.ofShape session.localSlot preview.shape preview.anchor
    (session.step (.confirm now)).answer = .confirmed (.ok request) ∧
      (session.step (.confirm now)).effects = [.send (.placement request)] := by
  simp [step_confirm inStep isOpen, active, turnOpen, valid]

/-- With no placement waiting, the local player can select and send what is legal as long as the
local turn is open. -/
theorem KeysInStep.playable (inStep : session.KeysInStep) (isOpen : session.closed = false)
    (free : session.prediction.isAwaiting = false) {selectedAt confirmedAt : Instant}
    (selectOpen : session.turn.localTurnOpen selectedAt = true)
    (confirmOpen : session.turn.localTurnOpen confirmedAt = true) (shape : Shape)
    (anchor : Position) :
    let selected := session.step (.select shape anchor selectedAt)
    let confirmed := selected.session.step (.confirm confirmedAt)
    selected.answer = .input (.ok ()) ∧
      (session.legality shape anchor session.grid = true → ∃ request : PlacementRequest,
        request.slot = session.localSlot ∧ request.shape = shape ∧ request.anchor = anchor ∧
        confirmed.answer = .confirmed (.ok request) ∧
        confirmed.effects = [.send (.placement request)]) := by
  have accepted := (select_accepted_iff isOpen shape anchor selectedAt).mpr
    ⟨free, selectOpen⟩
  refine ⟨accepted, fun legal => ⟨.ofShape session.localSlot shape anchor, rfl, rfl, rfl, ?_⟩⟩
  have inStepAfter := inStep.step (.select shape anchor selectedAt)
  rw [session_of_select_accepted isOpen accepted] at inStepAfter ⊢
  exact confirm_accepted inStepAfter isOpen _ rfl legal confirmOpen

/-! ## After a turn change -/

/-- A turn change to the local player, unless the game has ended, leaves nothing waiting and opens
the local turn until the deadline. -/
theorem turn_opened_of_turnChanged (isOpen : session.closed = false)
    (running : ∀ winner, session.turn.phase ≠ .ended winner) {number : Int}
    (seat : Slot.ofServer number = .ok session.localSlot) (turnTime : Option Binary32)
    (remaining : Binary32) (previousTimedOut : Bool) (turnNumber : Nat) (now : Instant) :
    let turned := session.step
      (.handle (.turnChanged number turnTime remaining previousTimedOut turnNumber) now)
    turned.answer = .handled (.ok ()) ∧ turned.session.closed = false ∧
      turned.session.prediction.isAwaiting = false ∧
      ∃ deadline, turned.session.turn.deadline? = some deadline ∧
        ∀ time, time < deadline → turned.session.turn.localTurnOpen time = true := by
  intro turned
  have applied := step_turnChanged isOpen seat turnTime remaining previousTimedOut turnNumber now
  have accepted : turned.answer = .handled (.ok ()) := congrArg Outcome.answer applied
  have settled : turned.session.prediction.isAwaiting = false :=
    isAwaiting_of_settling isOpen trivial accepted
  refine ⟨accepted, ?_, settled, ?_⟩
  all_goals simp only [turned, applied, turnChanged_fst]
  · exact isOpen
  · have active := TurnClock.change_phase running
    refine ⟨_, TurnClock.deadline?_of_active (active _ now), fun time early => ?_⟩
    refine (TurnClock.localTurnOpen_iff _ _).mpr ⟨_, active _ now, ?_, early⟩
    rw [TurnClock.change_localSlot]
    rfl

/-- After every run of a session that joined a room, as long as it is open and the game has not
ended, a turn change to the local player can be played: until its deadline any shape can be selected
at any anchor, and what the rule accepts is then sent by a confirmation, as its only effect. It does
not matter what was shown, what was sent and never answered, or which keys are held. But the
confirmation panics if the clock ends within a lifetime of keys, and the selection does if
coordinates are checked and one outgrows its width. -/
theorem new_turn_playable {roomId : String} {own : Int} {timing : Timing}
    {legality : LegalityRule} (joined : join roomId own timing legality = .ok session)
    (calls : List Call) (isOpen : (session.after calls).closed = false)
    (running : ∀ winner, (session.after calls).turn.phase ≠ .ended winner) {number : Int}
    (seat : Slot.ofServer number = .ok session.localSlot) (turnTime : Option Binary32)
    (remaining : Binary32) (previousTimedOut : Bool) (turnNumber : Nat) (now : Instant) :
    let turnChange := Call.handle
      (.turnChanged number turnTime remaining previousTimedOut turnNumber) now
    let turned := (session.after calls).step turnChange
    (∀ arithmetic, (session.after calls).call? arithmetic turnChange = some turned) ∧
    turned.answer = .handled (.ok ()) ∧
    ∃ deadline, turned.session.turn.deadline? = some deadline ∧
      ∀ shape anchor selectedAt confirmedAt, selectedAt < deadline → confirmedAt < deadline →
        let selected := turned.session.step (.select shape anchor selectedAt)
        let confirmed := selected.session.step (.confirm confirmedAt)
        selected.answer = .input (.ok ()) ∧
        (∀ arithmetic, turned.session.call? arithmetic (.select shape anchor selectedAt) =
          if arithmetic = .checked ∧ shape.outgrows anchor = true then none else some selected) ∧
        (legality shape anchor turned.session.grid = true →
          (∃ request : PlacementRequest,
            request.slot = session.localSlot ∧ request.shape = shape ∧ request.anchor = anchor ∧
            confirmed.answer = .confirmed (.ok request) ∧
            confirmed.effects = [.send (.placement request)]) ∧
          ∀ arithmetic, selected.session.call? arithmetic (.confirm confirmedAt) =
            if Instant.limit ≤ confirmedAt + timing.lifetime then none else some confirmed) := by
  have rule : (session.after calls).legality = legality := by
    rcases of_join joined with ⟨_, _, rfl⟩
    exact after_legality _ calls
  have lifetime := lifetime_after_join joined calls
  rw [← session.after_localSlot calls] at seat ⊢
  have inStep := KeysInStep.after_join joined calls
  generalize session.after calls = before at isOpen running seat rule lifetime inStep ⊢
  subst rule
  intro turnChange turned
  rcases turn_opened_of_turnChanged isOpen running seat turnTime remaining previousTimedOut
    turnNumber now with ⟨accepted, stillOpen, settled, deadline, armed, turnOpen⟩
  refine ⟨fun arithmetic => ?_, accepted, deadline, armed, ?_⟩
  · apply call?_eq_some_of_ne_none
    simp [turnChange, call?_handle_eq_none_iff, RefusesBoard, outgrows]
  · intro shape anchor selectedAt confirmedAt selectEarly confirmEarly
    have playable := (inStep.step turnChange).playable stillOpen settled (turnOpen _ selectEarly)
      (turnOpen _ confirmEarly) shape anchor
    rw [step_legality, step_localSlot] at playable
    refine ⟨playable.1, fun arithmetic => ?_, fun legal => ⟨playable.2 legal, fun arithmetic => ?_⟩⟩
    · have selectable := turnOpen _ selectEarly
      apply call?_eq_ite
      rw [call?_select_eq_none_iff stillOpen, and_iff_right settled, and_iff_right selectable]
    · rcases playable.2 legal with ⟨request, _, _, _, answered, _⟩
      apply call?_eq_ite
      rw [call?_confirm_eq_none_iff, and_iff_right ⟨request, answered⟩, step_lifetime,
        step_lifetime, lifetime]

/-- The placement that was never answered is sent again in the next turn, while its key would still
have been held. -/
theorem placementInTurn_sent_again : ∃ session,
    join "room" 1 .standard (.constant true) = .ok session ∧
    (session.after placementInTurn).ledger.blocks (.placement ⟨0⟩ ⟨0, 0⟩ .single) 5 = true ∧
    let turned := (session.after placementInTurn).step
      (.handle (.turnChanged 1 none (.ofBits 0x41f00000) false 2) 3)
    let selected := turned.session.step (.select ⟨.single, .none, .none⟩ ⟨0, 0⟩ 4)
    ∃ request : PlacementRequest, request.slot = session.localSlot ∧
      request.shape = ⟨.single, .none, .none⟩ ∧ request.anchor = ⟨0, 0⟩ ∧
      (selected.session.step (.confirm 5)).effects = [.send (.placement request)] := by
  have joined : join "room" 1 .standard (.constant true) = .ok _ := rfl
  have seat : Slot.ofServer 1 = .ok ⟨0⟩ := rfl
  refine ⟨_, joined, by decide +kernel, ?_⟩
  intro turned selected
  have law := new_turn_playable joined placementInTurn (by decide +kernel)
    (fun _ ended => absurd (TurnClock.current?_of_ended ended) (by decide +kernel)) seat none
    (.ofBits 0x41f00000) false 2 3
  rcases law with ⟨_, _, deadline, armed, playable⟩
  have ahead : deadline = 3 + Duration.ofSeconds 30 := by
    apply Option.some.inj
    exact armed.symm.trans (by decide +kernel)
  have inTime : 5 < deadline := by
    rw [ahead]
    decide
  rcases ((playable ⟨.single, .none, .none⟩ ⟨0, 0⟩ 4 5 (Nat.lt_trans (by decide) inTime)
    inTime).2.2 rfl).1 with ⟨request, seat, shape, anchor, _, sent⟩
  exact ⟨request, seat, shape, anchor, sent⟩

/-- With a lifetime of keys beyond the end of the clock, a legal placement in a new turn is not sent
but panics. -/
theorem legal_placement_unsent : ∃ settings session,
    Settings.ofText? "(game: (dedup_ttl_seconds: 1e19))" = some settings ∧
    join "room" 1 settings.game.timing .occupancy = .ok session ∧
    let turned := session.step (.handle (.turnChanged 1 none (.ofBits 0x41f00000) false 1) 0)
    let selected := turned.session.step (.select ⟨.single, .none, .none⟩ ⟨0, 0⟩ 1)
    turned.session.turn.deadline? = some (Duration.ofSeconds 30) ∧
    session.legality ⟨.single, .none, .none⟩ ⟨0, 0⟩ turned.session.grid = true ∧
    ∀ arithmetic, turned.session.call? arithmetic (.select ⟨.single, .none, .none⟩ ⟨0, 0⟩ 1) =
        some selected ∧
      selected.session.call? arithmetic (.confirm 2) = none := by
  rcases Settings.unending_accepted with ⟨settings, accepted, timing⟩
  refine ⟨settings, ?_⟩
  rw [timing]
  refine ⟨_, accepted, rfl, by decide +kernel, by decide +kernel, fun arithmetic => ⟨?_, ?_⟩⟩
  · apply call?_eq_some_of_ne_none
    rw [Ne, call?_select_eq_none_iff rfl]
    exact fun panicked => absurd panicked.2.2.2 (by decide +kernel)
  · exact call?_eq_none_of_outlasts (by decide +kernel) arithmetic

end Session

end TileMatch
