import TileMatch.Proofs.Session.SnapshotRequests
import TileMatch.Proofs.Session.Submission

/-!
# The end of a game

The end of a game locks play until the next one starts (`Session.IsLocked`). Two facts carry this.
The phase of the clock stays at the end of the game, whatever the server says about turns, and no
placement is pending, since one begins in an open local turn only (`Session.GameOver`). What may be
sent then is seen from what each kind of request needs: a placement a preview, a pass the expiry of
a turn, and a request for a snapshot a desync, unless the player asks or a snapshot is refused.
-/

namespace TileMatch

namespace Session

/-- The game has ended and nothing of it is pending. -/
def GameOver (session : Session) : Prop :=
  (∃ winner, session.turn.phase = .ended winner) ∧ session.prediction = .idle

/-- Nothing that has to do with play can be done, and no signal of the clock is given. -/
structure IsLocked (session : Session) : Prop where
  ended : ∃ winner, session.turn.phase = .ended winner
  noTurn : session.turn.current? = none
  noDeadline : session.turn.deadline? = none
  refusesSelect (shape : Shape) (anchor : Position) (now : Instant) :
    (session.step (.select shape anchor now)).answer = .input (.error .notLocalTurn)
  refusesConfirm (now : Instant) :
    (session.step (.confirm now)).answer = .confirmed (.error .noActivePreview)
  refusesCancel : (session.step .cancel).answer = .input (.error .noActivePreview)
  tickSilent (now : Instant) :
    (session.turn.tick now).2 = [] ∧ (session.step (.tick now)).effects = []
  changeSilent (change : TurnClock.Change) (now : Instant) :
    (session.turn.change change now).2 = []
  turnSilent (number : Int) (turnTime : Option Binary32) (remaining : Binary32)
      (previousTimedOut : Bool) (turnNumber : Nat) (now : Instant) :
    (session.step (.handle
      (.turnChanged number turnTime remaining previousTimedOut turnNumber) now)).effects = []
  /-- Nothing is sent but a request for a snapshot. -/
  sends (call : Call) (request : OutboundRequest)
    (sent : .send request ∈ (session.step call).effects) :
    request = .resync ∧
      ((∃ now, call = .requestResync now) ∨ Moment.RefusesSnapshot ⟨session, call⟩)

variable {session : Session}

/-! ## Calls -/

theorem gameOver_gameEnded (isOpen : session.closed = false) (winner : Option Int)
    (now : Instant) : (session.step (.handle (.gameEnded winner) now)).session.GameOver := by
  have notClosed : ¬session.closed = true := by simp [isOpen]
  simp only [step, handle, if_neg notClosed]
  exact ⟨⟨_, rfl⟩, rfl⟩

theorem phase_of_ended {call : Call} {winner : Option Slot}
    (ended : session.turn.phase = .ended winner) (noStart : ∀ now, call ≠ .handle .gameStarted now)
    (stillOpen : (session.step call).session.closed = false) :
    ∃ winner, (session.step call).session.turn.phase = .ended winner := by
  have stepped := stepped_of_isOpen (isOpen_of_step stillOpen) call
  generalize session.step call = outcome at stepped stillOpen ⊢
  cases stepped with
  | gameStarted now => exact absurd rfl (noStart now)
  | gameEnded => exact ⟨_, rfl⟩
  | disconnected | roomLeft | left => cases stillOpen
  | turnChanged =>
      rw [turnChanged_fst]
      dsimp only
      rw [TurnClock.change_of_ended ended]
      exact ⟨winner, ended⟩
  | ticked now swept ran =>
      rw [obeyAll_frame, ran]
      dsimp only
      rw [TurnClock.tick_of_ended ended]
      exact ⟨winner, ended⟩
  | dropped | roomChanged | snapshotAccepted | snapshotRefused | cellsPlaced | placementRejected
  | selected | selectRefused | confirmed | confirmStale | confirmRefused | cancelled
  | cancelRefused | asked | notAsked => exact ⟨winner, ended⟩

theorem gameOver_step (finished : session.GameOver) {call : Call}
    (noStart : ∀ now, call ≠ .handle .gameStarted now)
    (stillOpen : (session.step call).session.closed = false) :
    (session.step call).session.GameOver := by
  rcases finished with ⟨⟨winner, ended⟩, idle⟩
  rcases phase_of_ended ended noStart stillOpen with ⟨winner, ended⟩
  refine ⟨⟨winner, ended⟩, ?_⟩
  cases session.placementStep call with
  | none idle => exact idle
  | kept same => exact same.trans idle
  | begun inTurn => cases (TurnClock.current?_of_ended ended).symm.trans inTurn.2

theorem gameOver_after (finished : session.GameOver) {calls : List Call}
    (noStart : ∀ now, .handle .gameStarted now ∉ calls)
    (stillOpen : (session.after calls).closed = false) : (session.after calls).GameOver := by
  induction calls generalizing session with
  | nil => exact finished
  | cons call rest hypothesis =>
      simp only [List.mem_cons, not_or] at noStart
      have first := gameOver_step finished (fun now starts => (noStart now).1 starts.symm)
        (isOpen_of_after stillOpen)
      exact hypothesis first (fun now => (noStart now).2) stillOpen

/-! ## The lock -/

theorem turnChanged_of_gameOver (finished : session.GameOver) (change : TurnClock.Change)
    (now : Instant) : (session.turnChanged change now).2 = [] := by
  rcases finished with ⟨⟨winner, ended⟩, idle⟩
  simp only [turnChanged, releaseConfirmed, loseTurn, TurnClock.change_of_ended ended, idle,
    Prediction.confirmedKey?, Prediction.preview?, Option.isSome_none, Bool.false_eq_true, if_false,
    obeyAll]
  repeat' split
  all_goals rfl

/-- When the server goes on to announce turns, nothing is left to be given up. -/
theorem effects_turnChanged_of_gameOver (finished : session.GameOver)
    (isOpen : session.closed = false) (number : Int) (turnTime : Option Binary32)
    (remaining : Binary32) (previousTimedOut : Bool) (turnNumber : Nat) (now : Instant) :
    (session.step (.handle
      (.turnChanged number turnTime remaining previousTimedOut turnNumber) now)).effects = [] := by
  have stepped := stepped_of_isOpen isOpen
    (.handle (.turnChanged number turnTime remaining previousTimedOut turnNumber) now)
  generalize session.step _ = outcome at stepped
  cases stepped with
  | dropped => rfl
  | roomChanged _ _ _ aboutRoom => exact aboutRoom.elim
  | turnChanged => exact turnChanged_of_gameOver finished _ _

theorem sent_of_gameOver (finished : session.GameOver) {call : Call} {request : OutboundRequest}
    (sent : .send request ∈ (session.step call).effects) : request = .resync ∧
      ((∃ now, call = .requestResync now) ∨ Moment.RefusesSnapshot ⟨session, call⟩) := by
  rcases finished with ⟨⟨winner, ended⟩, idle⟩
  cases request with
  | placement request =>
      rcases confirm_of_placement_sent sent with ⟨_, preview, _, _, active, _⟩
      cases idle.symm.trans active
  | pass =>
      rcases send_pass_mem_step_iff.mp sent with ⟨now, _, _, expired, _⟩
      rw [TurnClock.tick_of_ended ended] at expired
      cases expired
  | resync =>
      rcases resync_sent_cases sent with asks | refuses | ⟨_, now, waited, _, found⟩
      · exact ⟨rfl, .inl asks⟩
      · exact ⟨rfl, .inr refuses⟩
      · rw [TurnClock.tick_of_ended ended] at found
        cases found

theorem isLocked_of_gameOver (finished : session.GameOver) (isOpen : session.closed = false) :
    session.IsLocked := by
  have notClosed : ¬session.closed = true := by simp [isOpen]
  have ⟨⟨winner, ended⟩, idle⟩ := finished
  have noTurn := TurnClock.current?_of_ended ended
  have ticks := TurnClock.tick_of_ended ended
  refine {
    ended := ⟨winner, ended⟩
    noTurn
    noDeadline := ?noDeadline
    refusesSelect := ?refusesSelect
    refusesConfirm := ?refusesConfirm
    refusesCancel := ?refusesCancel
    tickSilent := ?tickSilent
    changeSilent := ?changeSilent
    turnSilent := effects_turnChanged_of_gameOver finished isOpen
    sends := fun _ _ => sent_of_gameOver finished }
  case noDeadline => simp [TurnClock.deadline?, TurnClock.countdown?, ended]
  case refusesSelect =>
    intro shape anchor now
    have shut : session.turn.localTurnOpen now = false := by
      simp [TurnClock.localTurnOpen, TurnClock.isLocalTurn, noTurn]
    simp [step, select, notClosed, Prediction.select, idle, shut]
  case refusesConfirm =>
    intro now
    simp [step, confirm, notClosed, Prediction.confirm, idle]
  case refusesCancel => simp [step, cancel, notClosed, Prediction.cancel, idle]
  case tickSilent =>
    intro now
    simp [step, tick, notClosed, ticks, obeyAll]
  case changeSilent =>
    intro change now
    rw [TurnClock.change_of_ended ended]

/-- From the end of a game, whoever has won, until the next one starts, play is locked as long as
the session stays open, whatever is called. -/
theorem locked_until_next_start (session : Session) (winner : Option Int) (now : Instant)
    {calls : List Call} (noStart : ∀ now, .handle .gameStarted now ∉ calls)
    (stillOpen : (session.after (.handle (.gameEnded winner) now :: calls)).closed = false) :
    (session.after (.handle (.gameEnded winner) now :: calls)).IsLocked := by
  have isOpen : session.closed = false := isOpen_of_after stillOpen
  have finished := gameOver_gameEnded isOpen winner now
  exact isLocked_of_gameOver (gameOver_after finished noStart stillOpen) stillOpen

/-- A game that ends in the local turn while a placement waits, and then a turn, a roster and a look
at the clock. -/
def turnAfterEnd : List Call :=
  [.handle (.turnChanged 1 none (.ofBits 0x41f00000) false 3) 4,
    .handle (.roomJoined "room" [⟨1, "user", "User", true, true⟩]) 5,
    .tick (Duration.ofSeconds 60), .requestResync (Duration.ofSeconds 60)]

theorem turnAfterEnd_locked : ∃ session,
    join "room" 1 .standard (.constant true) = .ok session ∧
    (session.after placementInTurn).prediction.isAwaiting = true ∧
    ((session.after placementInTurn).after
      (.handle (.gameEnded (some 2)) 3 :: turnAfterEnd)).IsLocked := by
  refine ⟨_, rfl, by decide +kernel, locked_until_next_start _ (some 2) 3 ?noStart ?stillOpen⟩
  case noStart => simp [turnAfterEnd]
  case stillOpen => decide +kernel

end Session

end TileMatch
