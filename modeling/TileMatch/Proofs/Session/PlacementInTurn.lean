import TileMatch.Proofs.Session.Running

/-!
# Placements and the local turn

The prediction knows nothing of turns, and there are many ways for the turn to leave the local
player: another turn, the start or the end of a game, and the end of the session. With each of them
the session drops the placement, so that a preview and a placement that waits exist in the local
turn only (`Session.PendingInLocalTurn`).

`Session.PlacementStep` says what any call does to a placement: it goes, or it stays in a turn that
stays, or it begins while the local turn is open.
-/

namespace TileMatch

/-- A placement that waits does so under a key of its kind. -/
def Prediction.IsKeyed (prediction : Prediction) : Prop :=
  ∀ key, prediction.confirmedKey? = some key → key.operation = .placement

/-- The session is open and it is the turn of the local player, run out or not. -/
def Session.InLocalTurn (session : Session) : Prop :=
  session.closed = false ∧ session.turn.current? = some session.localSlot

/-- What a call does to the local placement. -/
inductive Session.PlacementStep (before after : Session) : Prop
  | none (idle : after.prediction = .idle)
  | kept (same : after.prediction = before.prediction)
      (stays : before.InLocalTurn → after.InLocalTurn)
  | begun (inTurn : after.InLocalTurn) (keyed : after.prediction.IsKeyed)

namespace Session

variable {session : Session}

/-! ## Calls -/

/-- After a turn change nothing is pending, but for a preview when it is again the local player's
turn. -/
theorem turnChanged_prediction_cases (session : Session) (change : TurnClock.Change)
    (now : Instant) :
    (session.turnChanged change now).1.prediction = .idle ∨
    ∃ preview, change.slot = session.localSlot ∧ session.prediction = .previewing preview ∧
      (session.turnChanged change now).1.prediction = .previewing preview := by
  rw [turnChanged_fst]
  dsimp only
  cases session.prediction with
  | idle | confirmed => simp [Prediction.afterTurnChange, Prediction.afterTurnLost]
  | previewing preview =>
      by_cases own : change.slot = session.localSlot
      · exact .inr ⟨preview, own, rfl, if_pos own⟩
      · exact .inl (if_neg own)

theorem inLocalTurn_turnChanged {change : TurnClock.Change} (own : change.slot = session.localSlot)
    (inTurn : session.InLocalTurn) (now : Instant) :
    (session.turnChanged change now).1.InLocalTurn := by
  have running : ∀ winner, session.turn.phase ≠ .ended winner := by
    intro winner ended
    cases (TurnClock.current?_of_ended ended).symm.trans inTurn.2
  have active := TurnClock.change_phase running change now
  rw [turnChanged_fst]
  refine ⟨inTurn.1, ?_⟩
  rw [TurnClock.current?_of_active active, localSlot, TurnClock.change_localSlot]
  exact congrArg some own

theorem placementStep_turnChanged (session : Session) (change : TurnClock.Change) (now : Instant) :
    session.PlacementStep (session.turnChanged change now).1 := by
  rcases session.turnChanged_prediction_cases change now with idle | ⟨preview, own, active, stays⟩
  · exact .none idle
  · exact .kept (stays.trans active.symm) fun inTurn => inLocalTurn_turnChanged own inTurn now

/-- A tick keeps the turn, and drops nothing but a preview. -/
theorem placementStep_ticked {swept : Session} {now : Instant}
    (ran : swept = { session with
      turn := (session.turn.tick now).1
      ledger := session.ledger.sweep now }) :
    session.PlacementStep (swept.obeyAll now (session.turn.tick now).2).1 := by
  have stays : session.InLocalTurn →
      (swept.obeyAll now (session.turn.tick now).2).1.InLocalTurn := by
    rintro ⟨isOpen, current⟩
    rw [obeyAll_frame, ran]
    refine ⟨isOpen, ?_⟩
    simp only [localSlot, TurnClock.tick_current?, TurnClock.tick_localSlot]
    exact current
  have left : (swept.obeyAll now (session.turn.tick now).2).1.prediction =
      if .localExpired ∈ (session.turn.tick now).2 then session.prediction.afterTurnLost
      else session.prediction := by
    rw [obeyAll_prediction, ran]
  split at left
  · cases before : session.prediction with
    | previewing => exact .none (left.trans (congrArg Prediction.afterTurnLost before))
    | idle | confirmed =>
        rw [before] at left
        exact .kept (left.trans before.symm) stays
  · exact .kept left stays

theorem placementStep (session : Session) (call : Call) :
    session.PlacementStep (session.step call).session := by
  cases isClosed : session.closed with
  | true =>
      rw [(step_of_closed isClosed call).1]
      exact .kept rfl id
  | false =>
      have stepped := stepped_of_isOpen isClosed call
      generalize session.step call = outcome at stepped ⊢
      cases stepped with
      | turnChanged => exact session.placementStep_turnChanged _ _
      | ticked now swept ran => exact placementStep_ticked ran
      | selected shape anchor now preview free turnOpen =>
          exact .begun ⟨isClosed, TurnClock.current?_of_localTurnOpen turnOpen⟩ nofun
      | confirmed now preview request ledger active turnOpen =>
          apply PlacementStep.begun
          · exact ⟨isClosed, TurnClock.current?_of_localTurnOpen turnOpen⟩
          · rintro key ⟨⟩
            rfl
      | gameStarted | cellsPlaced | placementRejected | gameEnded | disconnected | roomLeft
      | confirmStale | cancelled | left => exact .none rfl
      | dropped | roomChanged | snapshotAccepted | snapshotRefused | selectRefused
      | confirmRefused | cancelRefused | asked | notAsked => exact .kept rfl id

/-! ## Runs -/

/-- A placement is pending in the local turn only, and waits under a key of its kind. -/
structure PendingInLocalTurn (session : Session) : Prop where
  inTurn : session.prediction ≠ .idle → session.InLocalTurn
  keyed : session.prediction.IsKeyed

theorem PendingInLocalTurn.of_idle (idle : session.prediction = .idle) :
    session.PendingInLocalTurn where
  inTurn pending := absurd idle pending
  keyed key waits := by
    rw [idle] at waits
    cases waits

theorem PendingInLocalTurn.idle_of_closed (inStep : session.PendingInLocalTurn)
    (isClosed : session.closed = true) : session.prediction = .idle := by
  by_cases idle : session.prediction = .idle
  · exact idle
  · exact absurd (inStep.inTurn idle).1 (by simp [isClosed])

theorem PendingInLocalTurn.step (inStep : session.PendingInLocalTurn) (call : Call) :
    (session.step call).session.PendingInLocalTurn := by
  cases session.placementStep call with
  | none idle => exact .of_idle idle
  | kept same stays =>
      constructor
      · intro pending
        exact stays (inStep.inTurn (same ▸ pending))
      · intro key waits
        exact inStep.keyed key (same ▸ waits)
  | begun inTurn keyed => exact ⟨fun _ => inTurn, keyed⟩

variable {roomId : String} {number : Int} {timing : Timing} {legality : LegalityRule}

theorem pendingInLocalTurn_after (joined : join roomId number timing legality = .ok session)
    (calls : List Call) : (session.after calls).PendingInLocalTurn := by
  refine after_induction PendingInLocalTurn ?_ (fun _ call inStep => inStep.step call) calls
  rcases of_join joined with ⟨slot, _, rfl⟩
  exact .of_idle rfl

/-- After a turn change that is handled with success nothing is pending, but for a preview when it
is the local player's turn. -/
theorem PendingInLocalTurn.turnChanged_cases (inStep : session.PendingInLocalTurn) {seat : Int}
    {turnTime : Option Binary32} {remaining : Binary32} {previousTimedOut : Bool}
    {turnNumber : Nat} {now : Instant} {outcome : Outcome}
    (led : session.step
      (.handle (.turnChanged seat turnTime remaining previousTimedOut turnNumber) now) = outcome)
    (accepted : outcome.answer = .handled (.ok ())) :
    outcome.session.prediction = .idle ∨ ∃ preview, Slot.ofServer seat = .ok session.localSlot ∧
      outcome.session.prediction = .previewing preview := by
  subst led
  cases isClosed : session.closed with
  | true =>
      left
      rw [(step_of_closed isClosed _).1]
      exact inStep.idle_of_closed isClosed
  | false =>
      have stepped := stepped_of_isOpen isClosed
        (.handle (.turnChanged seat turnTime remaining previousTimedOut turnNumber) now)
      generalize session.step _ = outcome at stepped accepted ⊢
      cases stepped with
      | dropped => cases accepted
      | roomChanged _ _ _ aboutRoom => exact aboutRoom.elim
      | turnChanged _ _ _ _ _ _ change seated =>
          rcases session.turnChanged_prediction_cases change now with
            idle | ⟨preview, own, _, active⟩
          · exact .inl idle
          · exact .inr ⟨preview, own ▸ seated, active⟩

/-- In every run of a session that joined a room, a preview and a placement that waits mean that the
session is open, that a game runs, and that it is the local player's turn. No placement waits after
a turn change that is handled with success, and nothing is pending after one to another player. -/
theorem pending_only_in_local_turn (joined : join roomId number timing legality = .ok session)
    (calls : List Call) :
    ((session.after calls).prediction ≠ .idle →
      (session.after calls).closed = false ∧ (session.after calls).turn.isActive = true ∧
        (session.after calls).turn.current? = some session.localSlot) ∧
    ∀ seat turnTime remaining previousTimedOut turnNumber now,
      let outcome := (session.after calls).step
        (.handle (.turnChanged seat turnTime remaining previousTimedOut turnNumber) now)
      outcome.answer = .handled (.ok ()) →
        outcome.session.prediction.isAwaiting = false ∧
        ∀ slot, Slot.ofServer seat = .ok slot → slot ≠ session.localSlot →
          outcome.session.prediction = .idle := by
  have inStep := pendingInLocalTurn_after joined calls
  have sameSlot := session.after_localSlot calls
  generalize session.after calls = later at inStep sameSlot ⊢
  constructor
  · intro pending
    have inTurn := inStep.inTurn pending
    exact ⟨inTurn.1, isActive_of_current? inTurn.2, sameSlot ▸ inTurn.2⟩
  · intro seat turnTime remaining previousTimedOut turnNumber now
    dsimp only
    intro accepted
    rcases inStep.turnChanged_cases rfl accepted with idle | ⟨preview, seated, active⟩
    · rw [idle]
      exact ⟨rfl, fun _ _ _ => rfl⟩
    · rw [active]
      refine ⟨rfl, ?_⟩
      intro slot named other
      cases seated.symm.trans named
      exact absurd sameSlot other

/-- A turn of the local player in which a placement is sent. -/
def placementInTurn : List Call :=
  [.handle (.turnChanged 1 none (.ofBits 0x41f00000) false 1) 0,
    .select ⟨.single, .none, .none⟩ ⟨0, 0⟩ 1, .confirm 2]

theorem placementInTurn_given_up : ∃ session,
    join "room" 1 .standard (.constant true) = .ok session ∧
    (session.after placementInTurn).prediction.isAwaiting = true ∧
    (session.after placementInTurn).turn.current? = some session.localSlot ∧
    ((session.after placementInTurn).step
      (.handle (.turnChanged 2 none (.ofBits 0x41f00000) false 2) 3)).session.prediction =
        .idle := by
  have joined : join "room" 1 .standard (.constant true) = .ok _ := rfl
  have law := pending_only_in_local_turn joined placementInTurn
  refine ⟨_, joined, by decide +kernel, (law.1 ?pending).2.2,
    (law.2 2 none (.ofBits 0x41f00000) false 2 3 ?accepted).2 ⟨1⟩ rfl ?other⟩
  case pending => decide +kernel
  case accepted => rfl
  case other => decide +kernel

end Session

end TileMatch
