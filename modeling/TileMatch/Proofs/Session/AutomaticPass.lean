import TileMatch.Proofs.Session.Returning

/-!
# Automatic passes

A pass is sent by a tick alone: by the first one at or after the deadline of a local turn that a
turn change has armed. Two guards have to keep in step for this, the expiry that is noted in the
countdown and the key of the pass in the ledger. They do so because the key is held only while a
local countdown with a noted expiry runs (`PassesInStep.held`), and every turn change frees the key
as it arms a fresh countdown.
-/

namespace TileMatch

namespace Moment

/-- The call handles a turn change, with success, before the session is closed and unless the game
has ended. -/
def AcceptsTurn (moment : Moment) : Prop :=
  moment.before.closed = false ∧ (∀ winner, moment.before.turn.phase ≠ .ended winner) ∧
    moment.answer = .handled (.ok ()) ∧ ∃ number turnTime remaining previousTimedOut turnNumber now,
      moment.call = .handle (.turnChanged number turnTime remaining previousTimedOut turnNumber) now

/-- The call is a tick at or after a deadline. -/
def TicksFrom (deadline : Instant) (moment : Moment) : Prop :=
  ∃ now, moment.call = .tick now ∧ deadline ≤ now

/-- The call sends a pass. -/
def SendsPass (moment : Moment) : Prop := .pass ∈ moment.sent

theorem not_acceptsTurn_of_tick {moment : Moment} {now : Instant}
    (ticks : moment.call = .tick now) : ¬moment.AcceptsTurn := by
  rintro ⟨_, _, _, _, _, _, _, _, _, handles⟩
  rw [ticks] at handles
  cases handles

end Moment

namespace Session

/-! ## Acting on an expiry -/

variable (session : Session) (now : Instant)

theorem askForSnapshot_expiry? {key : RequestKey} (other : key ≠ .resync session.localSlot) :
    (session.askForSnapshot now).1.ledger.expiry? key = session.ledger.expiry? key := by
  unfold askForSnapshot
  split
  case h_1 => rfl
  case h_2 ledger began => exact (Ledger.expiry?_of_begin? began key).trans (if_neg other)

theorem obey_localExpired_of_blocks
    (blocked : session.ledger.blocks (.pass session.localSlot) now = true) :
    session.obey now .localExpired = session.loseTurn := by
  have refused : session.loseTurn.1.passTurn now = (session.loseTurn.1, []) := by
    have none := Ledger.begin?_isSome session.ledger (.pass session.localSlot) now
    simp only [blocked, Bool.not_true, Option.isSome_eq_false_iff, Option.isNone_iff_eq_none]
      at none
    simp only [passTurn, loseTurn, localSlot] at none ⊢
    rw [none]
  simp only [obey, refused, List.append_nil]

theorem obey_localExpired_of_not_blocks
    (free : session.ledger.blocks (.pass session.localSlot) now = false) :
    session.obey now .localExpired =
      ({ session.loseTurn.1 with
          ledger := session.ledger.hold (.pass session.localSlot) (now + session.ledger.lifetime) },
        session.loseTurn.2 ++ [.send .pass]) := by
  have began := Ledger.begin?_eq_some_iff.mpr ⟨free, rfl⟩
  have sent : session.loseTurn.1.passTurn now = ({ session.loseTurn.1 with
      ledger := session.ledger.hold (.pass session.localSlot) (now + session.ledger.lifetime) },
      [.send .pass]) := by
    simp only [passTurn, loseTurn, localSlot] at began ⊢
    rw [began]
  simp only [obey, sent]

/-- A pass is sent when the local turn expires, unless one is in flight. -/
theorem send_pass_mem_obeyAll_iff (signals : List TurnSignal) :
    .send .pass ∈ (session.obeyAll now signals).2 ↔
      .localExpired ∈ signals ∧ session.ledger.blocks (.pass session.localSlot) now = false := by
  induction signals generalizing session with
  | nil => simp [obeyAll]
  | cons signal rest hypothesis =>
      simp only [obeyAll, List.mem_append, hypothesis]
      cases signal with
      | display => simp [obey]
      | previousTimedOut => simp [obey]
      | localExpired =>
          cases blocked : session.ledger.blocks (.pass session.localSlot) now with
          | true =>
              rw [obey_localExpired_of_blocks session now blocked]
              simpa [loseTurn, localSlot] using fun _ => blocked
          | false =>
              rw [obey_localExpired_of_not_blocks session now blocked]
              simp
      | desync waited =>
          have kept := askForSnapshot_expiry? session now
            (RequestKey.pass_ne_resync session.localSlot session.localSlot)
          have asked : .send .pass ∉ (session.askForSnapshot now).2 := by
            unfold askForSnapshot
            split <;> simp
          simp only [obey_localSlot, Ledger.blocks]
          simp only [obey, List.mem_append, Effect.send_notMem_surface, asked, kept, List.mem_cons,
            reduceCtorEq, false_or]

theorem count_pass_obeyAll_le (signals : List TurnSignal) :
    ((session.obeyAll now signals).2.filterMap Effect.request?).count .pass ≤
      signals.count .localExpired := by
  induction signals generalizing session with
  | nil => simp [obeyAll]
  | cons signal rest hypothesis =>
      have later := hypothesis (session.obey now signal).1
      have first : ((session.obey now signal).2.filterMap Effect.request?).count .pass ≤
          [signal].count .localExpired := by
        cases signal with
        | display => exact Nat.zero_le _
        | previousTimedOut => exact Nat.zero_le _
        | localExpired =>
            have silent := Effect.filterMap_request?_eq_nil session.send_notMem_loseTurn
            cases blocked : session.ledger.blocks (.pass session.localSlot) now with
            | true => simp [obey_localExpired_of_blocks session now blocked, silent]
            | false => simp [obey_localExpired_of_not_blocks session now blocked, silent]
        | desync waited =>
            have silent := Effect.filterMap_request?_eq_nil
              fun _ => Effect.send_notMem_surface (.desyncDetected waited)
            simp only [obey, askForSnapshot, List.filterMap_append, silent]
            split <;> simp
      simp only [obeyAll, List.filterMap_append, List.count_append]
      rw [← List.singleton_append, List.count_append]
      exact Nat.add_le_add first later

/-- Acting on signals begins no request but one for a snapshot, and a pass when the local turn
expires. -/
theorem obeyAll_expiry? {signals : List TurnSignal} {key : RequestKey}
    (noResync : key ≠ .resync session.localSlot)
    (noPass : key = .pass session.localSlot → .localExpired ∉ signals) :
    (session.obeyAll now signals).1.ledger.expiry? key = session.ledger.expiry? key := by
  induction signals generalizing session with
  | nil => rfl
  | cons signal rest hypothesis =>
      simp only [List.mem_cons, not_or] at noPass
      have first : (session.obey now signal).1.ledger.expiry? key = session.ledger.expiry? key := by
        cases signal with
        | display => rfl
        | previousTimedOut => rfl
        | localExpired =>
            have other : key ≠ .pass session.localSlot := fun same => (noPass same).1 rfl
            cases blocked : session.ledger.blocks (.pass session.localSlot) now with
            | true =>
                rw [obey_localExpired_of_blocks session now blocked]
                rfl
            | false =>
                rw [obey_localExpired_of_not_blocks session now blocked]
                simp [Ledger.expiry?_hold, other]
        | desync => exact askForSnapshot_expiry? session now noResync
      have later := hypothesis (session.obey now signal).1 (by rwa [obey_localSlot])
        (by simpa only [obey_localSlot] using fun same => (noPass same).2)
      exact later.trans first

theorem localSlot_of_swept {session swept : Session} {now : Instant}
    (ran : swept = { session with
      turn := (session.turn.tick now).1
      ledger := session.ledger.sweep now }) : swept.localSlot = session.localSlot := by
  rw [ran]
  exact TurnClock.tick_localSlot _ _

/-- A pass is sent by a tick of an open session with which the local turn expires. -/
theorem send_pass_mem_step_iff {session : Session} {call : Call} :
    .send .pass ∈ (session.step call).effects ↔ ∃ now, call = .tick now ∧
      session.closed = false ∧ .localExpired ∈ (session.turn.tick now).2 ∧
      (session.ledger.sweep now).blocks (.pass session.localSlot) now = false := by
  cases isClosed : session.closed with
  | true => simp [(step_of_closed isClosed call).2]
  | false =>
      have stepped := stepped_of_isOpen isClosed call
      generalize session.step call = outcome at stepped ⊢
      cases stepped with
      | turnChanged =>
          refine iff_of_false (send_notMem_turnChanged _ _ _ _) ?_
          simp
      | ticked now swept ran =>
          have same := localSlot_of_swept ran
          rw [send_pass_mem_obeyAll_iff, same, ran]
          simp
      | _ => simp [gameStarted, cellsPlaced, placementRejected, gameEnded, disconnected, teardown]

/-! ## The countdown between two calls -/

/-- A countdown that a call leaves behind is armed by it, or has the slot and the deadline of the
one before; then the expiry of a local turn is noted by a tick that sees the deadline passed. -/
theorem countdown_of_step (moment : Moment) (isOpen : moment.before.closed = false)
    {countdown : Countdown} (active : moment.after.turn.phase = .active (some countdown)) :
    (moment.AcceptsTurn ∧ countdown.expiredAt = none) ∨
    ∃ earlier, ¬moment.AcceptsTurn ∧ moment.before.turn.phase = .active (some earlier) ∧
      countdown.slot = earlier.slot ∧ countdown.deadline = earlier.deadline ∧
      (earlier.slot = moment.before.localSlot → (countdown.expiredAt = none ↔
        earlier.expiredAt = none ∧ ¬moment.TicksFrom earlier.deadline)) := by
  rcases moment with ⟨session, call⟩
  simp only [Moment.AcceptsTurn, Moment.TicksFrom, Moment.after, Moment.answer, Moment.outcome]
    at isOpen active ⊢
  have stepped := stepped_of_isOpen isOpen call
  generalize session.step call = outcome at stepped active ⊢
  cases stepped with
  | turnChanged number turnTime remaining previousTimedOut turnNumber now change seat =>
      rw [turnChanged_fst] at active
      cases phase : session.turn.phase with
      | ended winner =>
          rw [TurnClock.change_of_ended phase, phase] at active
          cases active
      | waiting | active =>
          have running : ∀ winner, session.turn.phase ≠ .ended winner := by simp [phase]
          rw [TurnClock.change_phase running] at active
          cases active
          exact .inl ⟨⟨isOpen, by simp, rfl, _, _, _, _, _, _, rfl⟩, rfl⟩
  | ticked now swept ran =>
      rw [obeyAll_frame, ran] at active
      rcases TurnClock.tick_phase_eq_active active with ⟨earlier, earlierActive, rfl⟩
      refine .inr ⟨earlier, by simp, earlierActive, Countdown.tick_slot _ _ _ _,
        Countdown.tick_deadline _ _ _ _, ?_⟩
      intro own
      refine (Countdown.tick_expiredAt_eq_none_iff own _ _).trans ?_
      simp
  | gameStarted | gameEnded | disconnected | roomLeft | left => cases active
  | dropped =>
      refine .inr ⟨countdown, ?_, active, rfl, rfl, by simp⟩
      rintro ⟨_, _, refused, _⟩
      cases refused
  | roomChanged event now room aboutRoom =>
      refine .inr ⟨countdown, ?_, active, rfl, rfl, by simp⟩
      rintro ⟨_, _, _, _, _, _, _, _, _, handles⟩
      cases handles
      exact aboutRoom
  | snapshotAccepted | snapshotRefused | cellsPlaced | placementRejected | selected | selectRefused
  | confirmed | confirmStale | confirmRefused | cancelled | cancelRefused | asked | notAsked =>
      refine .inr ⟨countdown, ?_, active, rfl, rfl, by simp⟩
      rintro ⟨_, _, _, _, _, _, _, _, _, handles⟩
      cases handles

/-! ## The key of the pass -/

/-- The key of the pass is held only while a local countdown runs whose expiry has been noted. -/
def PassKeyLatched (session : Session) : Prop :=
  session.ledger.holds (.pass session.localSlot) = true → ∃ countdown,
    session.turn.phase = .active (some countdown) ∧ countdown.slot = session.localSlot ∧
      countdown.expiredAt ≠ none

theorem holds_of_holds_cellsPlaced {session : Session} {slot : Slot} {cells : List Position}
    {gained : Nat} {key : RequestKey}
    (held : (session.cellsPlaced slot cells gained).1.ledger.holds key = true) :
    session.ledger.holds key = true := by
  simp only [cellsPlaced] at held
  split at held <;> split at held
  · exact Ledger.holds_of_release (Ledger.holds_of_releaseAll held)
  · exact Ledger.holds_of_releaseAll held
  · exact Ledger.holds_of_release held
  · exact held

theorem holds_of_holds_placementRejected {session : Session} (reason : RejectionReason)
    {key : RequestKey} (held : (session.placementRejected reason).1.ledger.holds key = true) :
    session.ledger.holds key = true := by
  simp only [placementRejected] at held
  split at held
  · exact Ledger.holds_of_release held
  · exact Ledger.holds_of_releaseAll held

theorem not_holds_pass_turnChanged {session : Session} {change : TurnClock.Change} {now : Instant} :
    (session.turnChanged change now).1.ledger.holds (.pass session.localSlot) = false := by
  rw [turnChanged_fst, Bool.eq_false_iff]
  intro held
  have released : (session.ledger.release (.pass session.localSlot)).holds
      (.pass session.localSlot) = true := by
    dsimp only at held
    split at held
    · exact Ledger.holds_of_release held
    · exact held
  simp at released

/-- A pass that is in flight after a look at the clock belongs to a countdown of the local turn
whose expiry was noted before or is seen now. -/
theorem exists_passed_of_holds_pass {session swept : Session} (latched : session.PassKeyLatched)
    {now : Instant}
    (ran : swept = { session with
      turn := (session.turn.tick now).1
      ledger := session.ledger.sweep now })
    (held : (swept.obeyAll now (session.turn.tick now).2).1.ledger.holds
      (.pass swept.localSlot) = true) :
    ∃ countdown, session.turn.phase = .active (some countdown) ∧
      countdown.slot = session.localSlot ∧
      (countdown.expiredAt = none → countdown.deadline ≤ now) := by
  by_cases expired : .localExpired ∈ (session.turn.tick now).2
  · rcases (TurnClock.localExpired_mem_tick_iff _ _).mp expired with
      ⟨countdown, active, passed, own, _⟩
    exact ⟨countdown, active, own, fun _ => passed⟩
  · have kept := obeyAll_expiry? swept now
      (RequestKey.pass_ne_resync swept.localSlot swept.localSlot) fun _ => expired
    simp only [Ledger.holds, kept] at held
    have same := localSlot_of_swept ran
    have sweptHolds : (session.ledger.sweep now).holds (.pass session.localSlot) = true := by
      rw [← same]
      rwa [ran] at held ⊢
    rcases latched (Ledger.holds_of_sweep sweptHolds) with ⟨countdown, active, own, noted⟩
    exact ⟨countdown, active, own, fun unnoted => absurd unnoted noted⟩

theorem passKeyLatched_step {session : Session} (latched : session.PassKeyLatched) (call : Call) :
    (session.step call).session.PassKeyLatched := by
  unfold PassKeyLatched
  rw [step_localSlot]
  intro held
  cases isClosed : session.closed with
  | true =>
      rw [(step_of_closed isClosed call).1] at held ⊢
      exact latched held
  | false =>
      have stepped := stepped_of_isOpen isClosed call
      generalize session.step call = outcome at stepped held ⊢
      cases stepped with
      | turnChanged => simp [not_holds_pass_turnChanged] at held
      | gameStarted | gameEnded | disconnected | roomLeft | left => cases held
      | cellsPlaced => exact latched (holds_of_holds_cellsPlaced held)
      | placementRejected code =>
          exact latched (holds_of_holds_placementRejected (.ofCode code) held)
      | snapshotAccepted => exact latched (Ledger.holds_of_release held)
      | snapshotRefused rows now error ledger refused began =>
          rw [Ledger.holds_begin?_of_ne began (RequestKey.pass_ne_resync _ _)] at held
          exact latched (Ledger.holds_of_release held)
      | confirmed now preview request ledger active turnOpen valid began =>
          rw [Ledger.holds_begin?_of_ne began (RequestKey.pass_ne_placement _ _ _ _)] at held
          exact latched held
      | asked now ledger began =>
          rw [Ledger.holds_begin?_of_ne began (RequestKey.pass_ne_resync _ _)] at held
          exact latched held
      | ticked now swept ran =>
          rw [← localSlot_of_swept ran] at held
          rcases exists_passed_of_holds_pass latched ran held with
            ⟨countdown, active, own, passed⟩
          refine ⟨(countdown.tick session.turn.localSlot session.turn.grace now).1, ?_, ?_, ?_⟩
          · rw [obeyAll_frame, ran]
            exact congrArg (fun ticked => ticked.1.phase) (TurnClock.tick_of_active active now)
          · rw [Countdown.tick_slot, own]
          · intro unnoted
            rcases (Countdown.tick_expiredAt_eq_none_iff own _ _).mp unnoted with ⟨unnoted, early⟩
            exact absurd (passed unnoted) (Nat.not_le.mpr early)
      | dropped | roomChanged | selected | selectRefused | confirmStale | confirmRefused
      | cancelled | cancelRefused | notAsked => exact latched held

theorem not_holds_pass_of_localExpired {session : Session} (latched : session.PassKeyLatched)
    {now : Instant} (expired : .localExpired ∈ (session.turn.tick now).2) :
    (session.ledger.sweep now).holds (.pass session.localSlot) = false := by
  rw [Bool.eq_false_iff]
  intro held
  rcases latched (Ledger.holds_of_sweep held) with ⟨countdown, active, _, noted⟩
  rcases (TurnClock.localExpired_mem_tick_iff _ _).mp expired with
    ⟨other, otherActive, _, _, unnoted⟩
  rw [active] at otherActive
  cases otherActive
  exact noted unnoted

/-- A pass is sent by a tick with which a local turn expires, and by nothing else. -/
theorem sendsPass_iff {moment : Moment} (latched : moment.before.PassKeyLatched) :
    moment.SendsPass ↔ ∃ now countdown, moment.call = .tick now ∧ moment.before.closed = false ∧
      moment.before.turn.phase = .active (some countdown) ∧
      countdown.Expires moment.before.localSlot now := by
  unfold Moment.SendsPass
  rw [Moment.mem_sent_iff, Moment.outcome, send_pass_mem_step_iff]
  constructor
  · rintro ⟨now, ticks, isOpen, expired, _⟩
    rcases (TurnClock.localExpired_mem_tick_iff _ _).mp expired with ⟨countdown, active, expires⟩
    exact ⟨now, countdown, ticks, isOpen, active, expires⟩
  · rintro ⟨now, countdown, ticks, isOpen, active, expires⟩
    have expired := (TurnClock.localExpired_mem_tick_iff _ _).mpr ⟨countdown, active, expires⟩
    have free := not_holds_pass_of_localExpired latched expired
    have began := Ledger.begin?_eq_some_iff.mp (Ledger.begin?_of_not_holds free now)
    exact ⟨now, ticks, isOpen, expired, began.1⟩

theorem count_pass_sent_le (moment : Moment) : moment.sent.count .pass ≤ 1 := by
  by_cases sends : moment.SendsPass
  · rcases send_pass_mem_step_iff.mp (Moment.mem_sent_iff.mp sends) with ⟨now, ticks, isOpen, _⟩
    have effects : moment.outcome.effects =
        (obeyAll { moment.before with
          turn := (moment.before.turn.tick now).1
          ledger := moment.before.ledger.sweep now } now (moment.before.turn.tick now).2).2 := by
      simp only [Moment.outcome, ticks, step, tick, isOpen]
      rfl
    rw [Moment.sent, effects]
    exact Nat.le_trans (count_pass_obeyAll_le _ now _) (TurnClock.count_localExpired_tick_le _ now)
  · rw [List.count_eq_zero.mpr sends]
    exact Nat.zero_le 1

/-! ## The past of a countdown -/

/-- The countdown of an open session was armed by the last accepted turn change of its past, and
when it is the local player's, its expiry is noted exactly if a tick since then saw the deadline
passed, and a pass has been sent since then. -/
structure PassesInStep (seat : Slot) (past : List Moment) (session : Session) : Prop where
  sameSeat : session.localSlot = seat
  latched : session.PassKeyLatched
  armed : session.closed = false → ∀ countdown, session.turn.phase = .active (some countdown) →
    ∃ arming since, LastWith Moment.AcceptsTurn past arming since ∧
      arming.after.turn.deadline? = some countdown.deadline ∧
      (countdown.slot = seat →
        (countdown.expiredAt = none ↔ ∀ other ∈ since, ¬other.TicksFrom countdown.deadline) ∧
        (countdown.expiredAt ≠ none → ∃ passing ∈ since, passing.SendsPass))

namespace PassesInStep

theorem step {seat : Slot} {past : List Moment} {session : Session}
    (inStep : PassesInStep seat past session) (call : Call) :
    PassesInStep seat (past ++ [⟨session, call⟩]) (session.step call).session := by
  refine ⟨(session.step_localSlot call).trans inStep.sameSeat,
    passKeyLatched_step inStep.latched call, ?_⟩
  intro stillOpen countdown active
  have isOpen := isOpen_of_step stillOpen
  rcases countdown_of_step ⟨session, call⟩ isOpen active with
    ⟨accepts, unnoted⟩ | ⟨earlier, ignores, earlierActive, sameSlot, sameDeadline, noted_iff⟩
  · refine ⟨_, _, LastWith.of_property past accepts, TurnClock.deadline?_of_active active, ?_⟩
    simp [unnoted]
  · rcases inStep.armed isOpen earlier earlierActive with ⟨arming, since, last, deadline, passes⟩
    refine ⟨arming, since ++ [⟨session, call⟩], last.snoc ignores, sameDeadline ▸ deadline, ?_⟩
    intro own
    rw [sameSlot] at own
    rcases passes own with ⟨earlier_iff, earlierPass⟩
    have here_iff := noted_iff (own.trans inStep.sameSeat.symm)
    constructor
    · rw [here_iff, earlier_iff, sameDeadline]
      simp [or_imp, forall_and]
    · intro noted
      -- Either this tick notes the expiry, and then the free key lets it send the pass, or the pass
      -- was sent by the one that did.
      by_cases unnoted : earlier.expiredAt = none
      · have sends : Moment.SendsPass ⟨session, call⟩ := by
          have ticks : Moment.TicksFrom earlier.deadline ⟨session, call⟩ :=
            Classical.byContradiction fun early => noted (here_iff.mpr ⟨unnoted, early⟩)
          rcases ticks with ⟨now, ticks, passed⟩
          rw [sendsPass_iff inStep.latched]
          exact ⟨now, earlier, ticks, isOpen, earlierActive, passed,
            own.trans inStep.sameSeat.symm, unnoted⟩
        exact ⟨_, by simp, sends⟩
      · rcases earlierPass unnoted with ⟨passing, passing_mem, sends⟩
        exact ⟨passing, List.mem_append_left _ passing_mem, sends⟩

theorem of_history {roomId : String} {number : Int} {timing : Timing} {legality : LegalityRule}
    {session : Session} (joined : join roomId number timing legality = .ok session)
    {calls : List Call} {past later : List Moment} {moment : Moment}
    (split : session.history calls = past ++ moment :: later) :
    PassesInStep session.localSlot past moment.before := by
  rcases exists_calls_of_history split with ⟨first, rest, rfl, rfl, before, rfl⟩
  rw [before]
  refine history_induction (PassesInStep session.localSlot) ?_ (fun _ _ call inStep =>
    inStep.step call) first
  rcases of_join joined with ⟨slot, _, rfl⟩
  refine ⟨rfl, ?_, ?_⟩
  · intro held
    cases held
  · intro _ countdown active
    cases active

/-- A pass is sent by the first tick that sees the deadline of the local turn passed. -/
theorem sendsPass_iff_first {seat : Slot} {past : List Moment} {moment : Moment}
    (inStep : PassesInStep seat past moment.before) :
    moment.SendsPass ↔ ∃ now countdown arming since, moment.call = .tick now ∧
      moment.before.closed = false ∧ moment.before.turn.phase = .active (some countdown) ∧
      countdown.slot = seat ∧ countdown.deadline ≤ now ∧
      LastWith Moment.AcceptsTurn past arming since ∧
      arming.after.turn.deadline? = some countdown.deadline ∧
      ∀ other ∈ since, ¬other.TicksFrom countdown.deadline := by
  rw [sendsPass_iff inStep.latched]
  constructor
  · rintro ⟨now, countdown, ticks, isOpen, active, passed, own, unnoted⟩
    rw [inStep.sameSeat] at own
    rcases inStep.armed isOpen countdown active with ⟨arming, since, last, deadline, passes⟩
    exact ⟨now, countdown, arming, since, ticks, isOpen, active, own, passed, last, deadline,
      (passes own).1.mp unnoted⟩
  · rintro ⟨now, countdown, arming, since, ticks, isOpen, active, own, passed, last, _, early⟩
    rcases inStep.armed isOpen countdown active with ⟨other, sinceOther, lastOther, _, passes⟩
    rcases last.unique lastOther with ⟨rfl, rfl⟩
    exact ⟨now, countdown, ticks, isOpen, active, passed, own.trans inStep.sameSeat.symm,
      (passes own).1.mpr early⟩

/-- An expired local turn that a tick finds has been passed or is passed by that tick. -/
theorem exists_pass {seat : Slot} {past : List Moment} {moment : Moment} {now : Instant}
    {countdown : Countdown} (inStep : PassesInStep seat past moment.before)
    (ticks : moment.call = .tick now) (isOpen : moment.before.closed = false)
    (active : moment.before.turn.phase = .active (some countdown)) (own : countdown.slot = seat)
    (passed : countdown.deadline ≤ now) :
    ∃ arming since, LastWith Moment.AcceptsTurn past arming since ∧
      ∃ passing ∈ since ++ [moment], passing.SendsPass := by
  rcases inStep.armed isOpen countdown active with ⟨arming, since, last, _, passes⟩
  refine ⟨arming, since, last, ?_⟩
  by_cases unnoted : countdown.expiredAt = none
  · refine ⟨moment, by simp, (sendsPass_iff inStep.latched).mpr ?_⟩
    exact ⟨now, countdown, ticks, isOpen, active, passed, own.trans inStep.sameSeat.symm, unnoted⟩
  · rcases (passes own).2 unnoted with ⟨passing, passing_mem, sends⟩
    exact ⟨passing, List.mem_append_left _ passing_mem, sends⟩

theorem exists_acceptsTurn_between {seat : Slot} {earlier between : List Moment}
    {first second : Moment} (firstInStep : PassesInStep seat earlier first.before)
    (secondInStep : PassesInStep seat (earlier ++ first :: between) second.before)
    (firstSends : first.SendsPass) (secondSends : second.SendsPass) :
    ∃ arming ∈ between, arming.AcceptsTurn := by
  apply Classical.byContradiction
  intro none
  rcases firstInStep.sendsPass_iff_first.mp firstSends with
    ⟨now, countdown, arming, since, ticks, _, _, _, passed, last, deadline, _⟩
  rcases secondInStep.sendsPass_iff_first.mp secondSends with
    ⟨_, _, _, _, _, _, _, _, _, lastOther, deadlineOther, early⟩
  -- Both passes would belong to one arming, whose deadline the first has seen passed already.
  have stillLast : LastWith Moment.AcceptsTurn (earlier ++ first :: between) arming
      (since ++ first :: between) := by
    apply last.append
    intro other other_mem
    rcases List.mem_cons.mp other_mem with rfl | inBetween
    · exact Moment.not_acceptsTurn_of_tick ticks
    · exact fun accepts => none ⟨other, inBetween, accepts⟩
  rcases stillLast.unique lastOther with ⟨rfl, rfl⟩
  rw [deadline, Option.some.injEq] at deadlineOther
  exact early first (by simp) ⟨now, ticks, deadlineOther ▸ passed⟩

end PassesInStep

/-- For every run of a session that joined a room, a pass is sent by a tick of an open session that
finds the deadline of the local turn passed, and does so first since the accepted turn change that
armed it; no call sends two, the key of the pass is free whenever the local turn expires, every
expired turn that a tick finds has been passed since it was armed, and none is passed twice. But a
tick that would send something panics instead if the clock ends within a lifetime of keys, however
the arithmetic is done, and no other tick does. -/
theorem pass_sent_once_per_expired_turn {roomId : String} {number : Int} {timing : Timing}
    {legality : LegalityRule} {session : Session}
    (joined : join roomId number timing legality = .ok session) (calls : List Call) :
    (∀ past moment later, session.history calls = past ++ moment :: later →
      (moment.SendsPass ↔ ∃ now countdown arming since, moment.call = .tick now ∧
        moment.before.closed = false ∧ moment.before.turn.phase = .active (some countdown) ∧
        countdown.slot = session.localSlot ∧ countdown.deadline ≤ now ∧
        LastWith Moment.AcceptsTurn past arming since ∧
        arming.after.turn.deadline? = some countdown.deadline ∧
        ∀ other ∈ since, ¬other.TicksFrom countdown.deadline) ∧
      moment.sent.count .pass ≤ 1 ∧
      (∀ now, moment.call = .tick now → .localExpired ∈ (moment.before.turn.tick now).2 →
        (moment.before.ledger.sweep now).holds (.pass session.localSlot) = false) ∧
      (∀ now countdown, moment.call = .tick now → moment.before.closed = false →
        moment.before.turn.phase = .active (some countdown) →
        countdown.slot = session.localSlot → countdown.deadline ≤ now →
          ∃ arming since, LastWith Moment.AcceptsTurn past arming since ∧
            ∃ passing ∈ since ++ [moment], passing.SendsPass) ∧
      ∀ arithmetic now, moment.call = .tick now →
        (moment.Panics arithmetic ↔
          (∃ request, request ∈ moment.sent) ∧ Instant.limit ≤ now + timing.lifetime)) ∧
    ∀ earlier first between second later,
      session.history calls = earlier ++ first :: (between ++ second :: later) →
      first.SendsPass → second.SendsPass → ∃ arming ∈ between, arming.AcceptsTurn := by
  constructor
  · intro past moment later split
    have inStep := PassesInStep.of_history joined split
    refine ⟨inStep.sendsPass_iff_first, count_pass_sent_le moment, ?_, ?_, ?_⟩
    · intro now _ expired
      rw [← inStep.sameSeat]
      exact not_holds_pass_of_localExpired inStep.latched expired
    · intro now countdown ticks isOpen active own passed
      exact inStep.exists_pass ticks isOpen active own passed
    · intro arithmetic now ticks
      have narrow : moment.before.outgrows moment.call = false := by simp [ticks, outgrows]
      rw [← lifetime_of_history joined split]
      exact Moment.panics_iff_of_narrow (ticks ▸ rfl) narrow
  · intro earlier first between second later split firstSends secondSends
    have firstInStep := PassesInStep.of_history joined split
    rw [← List.cons_append, ← List.append_assoc] at split
    have secondInStep := PassesInStep.of_history joined split
    exact firstInStep.exists_acceptsTurn_between secondInStep firstSends secondSends

/-- A run in which two turns of the local player expire one after the other. -/
def expiredTwice : List Call :=
  [.handle (.turnChanged 1 none (.ofBits 0x41f00000) false 1) 0, .tick (Duration.ofSeconds 30),
    .handle (.turnChanged 1 none (.ofBits 0x41f00000) false 2) (Duration.ofSeconds 31),
    .tick (Duration.ofSeconds 61)]

theorem expiredTwice_passes :
    ∃ session, join "room" 1 .standard (.constant true) = .ok session ∧
      ∃ earlier first between second later,
        session.history expiredTwice = earlier ++ first :: (between ++ second :: later) ∧
        first.SendsPass ∧ second.SendsPass ∧ ∃ arming ∈ between, arming.AcceptsTurn := by
  have joined : join "room" 1 .standard (.constant true) = .ok _ := rfl
  have split (session : Session) : session.history expiredTwice =
      [_] ++ ⟨_, _⟩ :: ([_] ++ ⟨_, _⟩ :: []) := rfl
  refine ⟨_, joined, _, _, _, _, _, split _, ?firstSends, ?secondSends,
    (pass_sent_once_per_expired_turn joined _).2 _ _ _ _ _ (split _) ?firstSends ?secondSends⟩
  case firstSends =>
    unfold Moment.SendsPass
    decide +kernel
  case secondSends =>
    unfold Moment.SendsPass
    decide +kernel

/-- With a lifetime of keys beyond the end of the clock the first expired turn is left unpassed: the
tick that finds it panics. -/
theorem expired_turn_unpassed : ∃ settings session,
    Settings.ofText? "(game: (dedup_ttl_seconds: 1e19))" = some settings ∧
    join "room" 1 settings.game.timing .occupancy = .ok session ∧
    let turned := session.step (.handle (.turnChanged 1 none (.ofBits 0x3f800000) false 1) 0)
    turned.session.turn.isLocalTurn = true ∧
    turned.session.turn.deadline? = some (Duration.ofSeconds 1) ∧
    ∀ arithmetic, session.panics arithmetic
        (.handle (.turnChanged 1 none (.ofBits 0x3f800000) false 1) 0) = false ∧
      turned.session.call? arithmetic (.tick (Duration.ofSeconds 1)) = none := by
  rcases Settings.unending_accepted with ⟨settings, accepted, timing⟩
  refine ⟨settings, ?_⟩
  rw [timing]
  refine ⟨_, accepted, rfl, rfl, by decide +kernel, fun arithmetic => ⟨?_, ?_⟩⟩
  · cases arithmetic <;> rfl
  · exact call?_eq_none_of_outlasts (by decide +kernel) arithmetic

end Session

end TileMatch
