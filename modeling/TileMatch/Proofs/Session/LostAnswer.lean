import TileMatch.Proofs.Session.PlayableTurn
import TileMatch.Proofs.Unmended

/-!
# An answer that never comes

A key that is not answered runs out, which is meant to keep a lost answer from locking the player
out. But for a placement the key is only half of the lock. The prediction waits as well, and it does
not look at the key: a tick drops the key once its lifetime has passed and leaves the prediction as
it is. Only an event that settles the placement ends the waiting. So after a tick a selection in the
local turn is accepted exactly if every placement that was sent has been settled, whatever time has
passed (`Session.select_after_tick_iff`).

Which placements are unsettled is said about the history, so that the waiting is an invariant of
runs. That nothing is left of the key is another one: until its placement is settled no call holds
the key anew, so that it runs out when it should (`Session.AwaitsUntil`).
-/

namespace TileMatch

namespace Session

variable {session : Session}

/-! ## Waiting for the server -/

/-- Nothing but a confirmation that sends a placement makes the prediction wait. -/
theorem awaiting_before (moment : Moment) (awaiting : moment.after.prediction.isAwaiting = true) :
    moment.SendsPlacement ∨ moment.before.prediction.isAwaiting = true := by
  rcases moment with ⟨session, call⟩
  simp only [Moment.SendsPlacement, Moment.mem_sent_iff, Moment.after, Moment.outcome] at awaiting ⊢
  cases isClosed : session.closed with
  | true =>
      rw [(step_of_closed isClosed call).1] at awaiting
      exact .inr awaiting
  | false =>
      have stepped := stepped_of_isOpen isClosed call
      generalize session.step call = outcome at stepped awaiting ⊢
      cases stepped with
      | confirmed now preview request => exact .inl ⟨request, List.mem_singleton_self _⟩
      | turnChanged =>
          rw [turnChanged_fst] at awaiting
          dsimp only at awaiting
          split at awaiting <;> simp at awaiting
      | ticked now swept ran =>
          rw [obeyAll_prediction, ran] at awaiting
          split at awaiting
          · exact .inr (by rwa [Prediction.isAwaiting_afterTurnLost] at awaiting)
          · exact .inr awaiting
      | dropped | roomChanged | snapshotAccepted | snapshotRefused | selectRefused | confirmRefused
      | cancelRefused | asked | notAsked => exact .inr awaiting
      | _ => simp [gameStarted, cellsPlaced, placementRejected, gameEnded, teardown] at awaiting

/-- A placement waits after a call if the call sends it, or if it waited before and the call does
not settle it. -/
theorem isAwaiting_after_iff (moment : Moment) (stillOpen : moment.after.closed = false) :
    moment.after.prediction.isAwaiting = true ↔
      moment.SendsPlacement ∨ (moment.before.prediction.isAwaiting = true ∧ ¬moment.Settles) := by
  have isOpen : moment.before.closed = false := isOpen_of_step stillOpen
  constructor
  · intro awaiting
    refine (awaiting_before moment awaiting).imp id fun before => ⟨before, ?_⟩
    rintro ⟨_, handled, event, now, made, settling⟩
    rcases moment with ⟨session, call⟩
    subst made
    have settled := isAwaiting_of_settling isOpen settling handled
    exact absurd awaiting (by simp [Moment.after, Moment.outcome, settled])
  · rintro (sends | ⟨awaiting, unsettled⟩)
    · exact (prediction_of_sendsPlacement sends).2.2
    · rcases settled_of_awaiting moment isOpen awaiting with still | isClosed | settles
      · exact still
      · exact absurd (isClosed.symm.trans stillOpen) (by simp)
      · exact absurd settles unsettled

/-- An open session waits for the server exactly if a placement has been sent and not been settled
since. -/
theorem isAwaiting_iff_unsettled {roomId : String} {number : Int} {timing : Timing}
    {legality : LegalityRule} (joined : join roomId number timing legality = .ok session)
    {calls : List Call} (isOpen : (session.after calls).closed = false) :
    (session.after calls).prediction.isAwaiting = true ↔
      Unmended Moment.SendsPlacement Moment.Settles (session.history calls) := by
  refine history_induction (fun past session => session.closed = false →
    (session.prediction.isAwaiting = true ↔ Unmended Moment.SendsPlacement Moment.Settles past))
    ?_ ?_ calls isOpen
  · rcases of_join joined with ⟨slot, _, rfl⟩
    exact fun _ => iff_of_false Bool.false_ne_true Unmended.not_nil
  · intro past before call earlier stillOpen
    rw [Unmended.snoc_iff, ← earlier (isOpen_of_step stillOpen)]
    exact isAwaiting_after_iff ⟨before, call⟩ stillOpen

/-! ## The key of what is waited for -/

/-- A placement waits for the server under its key, which runs out at an instant, or is held no
more. -/
structure AwaitsUntil (session : Session) (request : PlacementRequest) (expiry : Instant) :
    Prop where
  waits : session.prediction =
    .confirmed request (.placement session.localSlot request.anchor request.piece)
  runsOut : ∀ time, session.ledger.expiry?
    (.placement session.localSlot request.anchor request.piece) = some time → time = expiry

/-- A tick drops the key of a placement that has run out, and keeps any other. -/
theorem expiry?_placement_ticked {swept : Session} {now : Instant}
    (ran : swept = { session with
      turn := (session.turn.tick now).1
      ledger := session.ledger.sweep now })
    (slot : Slot) (anchor : Position) (piece : Piece) :
    (swept.obeyAll now (session.turn.tick now).2).1.ledger.expiry? (.placement slot anchor piece) =
      (session.ledger.expiry? (.placement slot anchor piece)).filter (now < ·) := by
  rw [obeyAll_expiry? swept now (RequestKey.placement_ne_resync _ _ _ _)
    fun same => absurd same.symm (RequestKey.pass_ne_placement _ _ _ _), ran]
  exact Ledger.expiry?_sweep _ _ _

variable {request : PlacementRequest} {expiry : Instant}

/-- The placement goes on to wait through every call that does not settle it, and its key is not
held anew. -/
theorem AwaitsUntil.step (awaits : session.AwaitsUntil request expiry) (call : Call)
    (stillOpen : (session.step call).session.closed = false)
    (unsettled : ¬Moment.Settles ⟨session, call⟩) :
    (session.step call).session.AwaitsUntil request expiry := by
  have isOpen := isOpen_of_step stillOpen
  rcases awaits with ⟨waits, runsOut⟩
  obtain ⟨same, kept⟩ : (session.step call).session.prediction = session.prediction ∧
      ∀ time, (session.step call).session.ledger.expiry?
        (.placement session.localSlot request.anchor request.piece) = some time →
          session.ledger.expiry? (.placement session.localSlot request.anchor request.piece) =
            some time := by
    have noResync := RequestKey.placement_ne_resync session.localSlot session.localSlot
      request.anchor request.piece
    simp only [Moment.Settles, Moment.answer, Moment.outcome] at unsettled
    have stepped := stepped_of_isOpen isOpen call
    generalize session.step call = outcome at stepped stillOpen unsettled ⊢
    cases stepped with
    | gameStarted now => exact absurd ⟨isOpen, rfl, _, now, rfl, trivial⟩ unsettled
    | turnChanged _ _ _ _ _ now => exact absurd ⟨isOpen, rfl, _, now, rfl, trivial⟩ unsettled
    | cellsPlaced _ _ _ _ now => exact absurd ⟨isOpen, rfl, _, now, rfl, trivial⟩ unsettled
    | placementRejected _ now => exact absurd ⟨isOpen, rfl, _, now, rfl, trivial⟩ unsettled
    | gameEnded _ now => exact absurd ⟨isOpen, rfl, _, now, rfl, trivial⟩ unsettled
    | disconnected | roomLeft | left => cases stillOpen
    | selected _ _ _ _ free => simp [waits] at free
    | confirmed _ _ _ _ active => simp [waits] at active
    | confirmStale _ _ active => simp [waits] at active
    | cancelled _ active => simp [waits] at active
    | snapshotAccepted => exact ⟨rfl, by simp [Ledger.expiry?_release, noResync]⟩
    | snapshotRefused _ _ _ _ _ began =>
        exact ⟨rfl, by simp [Ledger.expiry?_of_begin? began, Ledger.expiry?_release, noResync]⟩
    | asked _ _ began => exact ⟨rfl, by simp [Ledger.expiry?_of_begin? began, noResync]⟩
    | ticked now swept ran =>
        refine ⟨?_, fun time held => ?_⟩
        · rw [obeyAll_prediction, ran, waits]
          exact ite_self _
        · rw [expiry?_placement_ticked ran, Option.filter_eq_some_iff] at held
          exact held.1
    | dropped | roomChanged | selectRefused | confirmRefused | cancelRefused | notAsked =>
        exact ⟨rfl, fun _ => id⟩
  constructor
  · rw [same, step_localSlot]
    exact waits
  · rw [step_localSlot]
    exact fun time held => runsOut time (kept time held)

theorem AwaitsUntil.after (awaits : session.AwaitsUntil request expiry) {calls : List Call}
    (stillOpen : (session.after calls).closed = false)
    (unsettled : ∀ moment ∈ session.history calls, ¬moment.Settles) :
    (session.after calls).AwaitsUntil request expiry := by
  induction calls generalizing session with
  | nil => exact awaits
  | cons call rest hypothesis =>
      simp only [history, List.forall_mem_cons] at unsettled
      exact hypothesis (awaits.step call (isOpen_of_after stillOpen) unsettled.1) stillOpen
        unsettled.2

/-- From its confirmation on a placement waits, and its key is held for a lifetime. -/
theorem awaitsUntil_of_placement_sent {moment : Moment} {sentAt : Instant}
    (made : moment.call = .confirm sentAt) (sent : .placement request ∈ moment.sent) :
    moment.after.AwaitsUntil request (sentAt + moment.before.ledger.lifetime) := by
  have isOpen := Moment.isOpen_of_mem_sent sent
  rw [Moment.mem_sent_iff] at sent
  rcases moment with ⟨session, call⟩
  subst made
  simp only [Moment.after, Moment.outcome] at isOpen sent ⊢
  have stepped := stepped_of_isOpen isOpen (.confirm sentAt)
  generalize session.step (.confirm sentAt) = outcome at stepped sent ⊢
  cases stepped with
  | confirmed _ preview made ledger _ _ _ began shape =>
      simp only [List.mem_singleton, Effect.send.injEq, OutboundRequest.placement.injEq] at sent
      subst sent
      rw [shape]
      refine ⟨rfl, fun time held => ?_⟩
      have begun := Ledger.expiry?_of_begin? began
        (.placement session.localSlot preview.anchor preview.shape.piece)
      rw [if_pos rfl] at begun
      exact Option.some.inj (held.symm.trans begun)
  | confirmStale | confirmRefused => simp at sent

/-- A placement that has been sent and not been settled since still waits. -/
theorem awaitsUntil_of_unsettled {calls : List Call} {earlier since : List Moment} {moment : Moment}
    {sentAt : Instant} (isOpen : (session.after calls).closed = false)
    (split : session.history calls = earlier ++ moment :: since)
    (made : moment.call = .confirm sentAt) (sent : .placement request ∈ moment.sent)
    (unsettled : ∀ other ∈ since, ¬other.Settles) :
    (session.after calls).AwaitsUntil request (sentAt + session.ledger.lifetime) := by
  rcases exists_calls_of_history split with ⟨first, rest, rfl, _, before, rfl⟩
  have begun := awaitsUntil_of_placement_sent made sent
  rw [before, after_lifetime] at begun
  have onward : session.after (first ++ moment.call :: rest) = moment.after.after rest := by
    rw [after_append, ← before]
    rfl
  rw [onward] at isOpen ⊢
  exact begun.after isOpen unsettled

/-! ## After a tick -/

/-- A tick leaves the session open, the placement waiting or not, and the local turn open or not. -/
theorem kept_by_tick (isOpen : session.closed = false) (now : Instant) :
    let ticked := (session.step (.tick now)).session
    ticked.closed = false ∧ ticked.prediction.isAwaiting = session.prediction.isAwaiting ∧
      ticked.turn.localTurnOpen now = session.turn.localTurnOpen now := by
  intro ticked
  have stepped := stepped_of_isOpen isOpen (.tick now)
  generalize led : session.step (.tick now) = outcome at stepped
  cases stepped with
  | ticked _ swept ran =>
      simp only [ticked, led]
      refine ⟨?_, ?_, ?_⟩
      · rw [obeyAll_frame, ran]
        exact isOpen
      · rw [obeyAll_prediction, ran]
        split
        · exact Prediction.isAwaiting_afterTurnLost _
        · rfl
      · rw [obeyAll_frame, ran]
        exact TurnClock.tick_localTurnOpen _ _ _

/-- The key of a placement is gone after a tick at which its lifetime has passed. -/
theorem AwaitsUntil.not_holds_after_tick (awaits : session.AwaitsUntil request expiry)
    (isOpen : session.closed = false) {now : Instant} (passed : expiry ≤ now) :
    (session.step (.tick now)).session.ledger.holds
      (.placement session.localSlot request.anchor request.piece) = false := by
  have stepped := stepped_of_isOpen isOpen (.tick now)
  generalize session.step (.tick now) = outcome at stepped
  cases stepped with
  | ticked _ swept ran =>
      rw [Ledger.holds, expiry?_placement_ticked ran, Option.isSome_eq_false_iff,
        Option.isNone_iff_eq_none, Option.filter_eq_none_iff]
      intro time held
      rw [awaits.runsOut time held]
      simpa using passed

/-- In every open session of a run that joined a room, at every tick: a selection that follows the
tick is accepted exactly if the local turn is open and each placement that was sent has been settled
since. After one that has not, the selection is refused because the placement waits, at any time,
although its key is not held any more once its lifetime has passed. -/
theorem select_after_tick_iff {roomId : String} {number : Int} {timing : Timing}
    {legality : LegalityRule} (joined : join roomId number timing legality = .ok session)
    (calls : List Call) (isOpen : (session.after calls).closed = false) (now : Instant)
    (shape : Shape) (anchor : Position) :
    let ticked := (session.after calls).step (.tick now)
    let selected := ticked.session.step (.select shape anchor now)
    (selected.answer = .input (.ok ()) ↔ (session.after calls).turn.localTurnOpen now = true ∧
      ¬Unmended Moment.SendsPlacement Moment.Settles (session.history calls)) ∧
    ∀ earlier moment since request sentAt, session.history calls = earlier ++ moment :: since →
      moment.call = .confirm sentAt → .placement request ∈ moment.sent →
      (∀ other ∈ since, ¬other.Settles) →
        selected.answer = .input (.error .awaitingServer) ∧
        (sentAt + timing.lifetime ≤ now → ticked.session.ledger.holds
          (.placement session.localSlot request.anchor request.piece) = false) := by
  intro ticked selected
  rcases kept_by_tick isOpen now with ⟨stillOpen, sameWait, sameTurn⟩
  have unsettled := isAwaiting_iff_unsettled joined isOpen
  constructor
  · rw [select_accepted_iff stillOpen, sameWait, sameTurn, and_comm, ← unsettled, Bool.not_eq_true]
  · intro earlier moment since request sentAt split made sent unanswered
    have awaits := awaitsUntil_of_unsettled isOpen split made sent unanswered
    have lifetime : session.ledger.lifetime = timing.lifetime := by
      rcases of_join joined with ⟨_, _, rfl⟩
      rfl
    rw [lifetime] at awaits
    constructor
    · apply select_refused_of_awaiting stillOpen
      rw [sameWait, awaits.waits]
      rfl
    · intro passed
      rw [← session.after_localSlot calls]
      exact awaits.not_holds_after_tick isOpen passed

theorem selected_after_rejection : ∃ session,
    join "room" 1 .standard (.constant true) = .ok session ∧
    let calls := placementInTurn ++ [.handle (.placementRejected "overlap") 3]
    let ticked := ((session.after calls).step (.tick 4)).session
    (ticked.step (.select ⟨.single, .none, .none⟩ ⟨0, 0⟩ 4)).answer = .input (.ok ()) ∧
      ¬Unmended Moment.SendsPlacement Moment.Settles (session.history calls) := by
  have joined : join "room" 1 .standard (.constant true) = .ok _ := rfl
  refine ⟨_, joined, ?_⟩
  intro calls ticked
  have stillOpen : ticked.closed = false := rfl
  have accepted := (select_accepted_iff stillOpen ⟨.single, .none, .none⟩ ⟨0, 0⟩ 4).mpr
    ⟨by decide +kernel, by decide +kernel⟩
  have law := select_after_tick_iff joined calls rfl 4 ⟨.single, .none, .none⟩ ⟨0, 0⟩
  exact ⟨accepted, (law.1.mp accepted).2⟩

/-- The answer to a placement is lost. When the lifetime of its key has passed the local turn is
open and no key is held, but a selection is refused. -/
theorem locked_out_after_lost_answer : ∃ session,
    join "room" 1 .standard (.constant true) = .ok session ∧
    let waiting := session.after placementInTurn
    let now := 2 + Timing.standard.lifetime
    let ticked := (waiting.step (.tick now)).session
    waiting.closed = false ∧
    (∃ earlier moment, session.history placementInTurn = earlier ++ [moment] ∧
      moment.call = .confirm 2 ∧ moment.SendsPlacement) ∧
    waiting.turn.localTurnOpen now = true ∧ ticked.ledger.size = 0 ∧
    (ticked.step (.select ⟨.single, .none, .none⟩ ⟨0, 0⟩ now)).answer =
      .input (.error .awaitingServer) := by
  have joined : join "room" 1 .standard (.constant true) = .ok _ := rfl
  have split (session : Session) : session.history placementInTurn = [_, _] ++ [⟨_, _⟩] := rfl
  refine ⟨_, joined, rfl, ⟨_, _, split _, rfl, ?sends⟩, by decide +kernel, by decide +kernel, rfl⟩
  case sends => exact ⟨⟨⟨0⟩, .single, ⟨0, 0⟩, .none, .none⟩, by decide +kernel⟩

end Session

end TileMatch
