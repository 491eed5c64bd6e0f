import TileMatch.Proofs.Session.History
import TileMatch.Settings

/-!
# Calls that return

A call of a session panics in two cases. It sends a request, and the key of the request would have
to be held beyond the end of the clock; or it computes a number that outgrows its width, where the
arithmetic is checked (`Session.call?_eq_none_iff`). What is said elsewhere of the outcome of a call
is what it comes to if it returns. Without checks every call does that is made a lifetime of keys
before the end of the clock (`Session.returns_of_lasting`). But settings are accepted with lifetimes
that leave no such time (`Settings.unending_accepted`).
-/

namespace TileMatch

/-- The calls are made so early that no key begun by any of them would outlast the clock. -/
def Timing.Allows (timing : Timing) (calls : List Call) : Prop :=
  ∀ call ∈ calls, ∀ now, call.time? = some now → now + timing.lifetime < Instant.limit

namespace Moment

/-- The call panics instead of returning. -/
def Panics (arithmetic : Arithmetic) (moment : Moment) : Prop :=
  moment.before.call? arithmetic moment.call = none

end Moment

namespace Session

variable {session : Session} {now : Instant} {call : Call} {arithmetic : Arithmetic}

/-- A call sends a request whose key the clock is too short to hold. -/
def SendsBeyondClock (session : Session) (call : Call) : Prop :=
  (∃ request, .send request ∈ (session.step call).effects) ∧
    ∃ now, call.time? = some now ∧ Instant.limit ≤ now + session.ledger.lifetime

/-! ## Asking and passing -/

theorem askPanics_iff : session.askPanics now = true ↔
    (∃ request, .send request ∈ (session.askForSnapshot now).2) ∧
      Instant.limit ≤ now + session.ledger.lifetime := by
  unfold askPanics askForSnapshot
  rw [Ledger.panics_iff]
  refine and_congr_left' ?_
  cases session.ledger.begin? (.resync session.localSlot) now <;> simp

theorem passPanics_iff : session.passPanics now = true ↔
    (∃ request, .send request ∈ (session.passTurn now).2) ∧
      Instant.limit ≤ now + session.ledger.lifetime := by
  unfold passPanics passTurn
  rw [Ledger.panics_iff]
  refine and_congr_left' ?_
  cases session.ledger.begin? (.pass session.localSlot) now <;> simp

theorem obeyPanics_iff (signal : TurnSignal) : session.obeyPanics now signal = true ↔
    (∃ request, .send request ∈ (session.obey now signal).2) ∧
      Instant.limit ≤ now + session.ledger.lifetime := by
  cases signal with
  | display | previousTimedOut => simp [obeyPanics, obey]
  | localExpired => simp [obeyPanics, obey, passPanics_iff, loseTurn]
  | desync => simp [obeyPanics, obey, askPanics_iff]

theorem obeyAllPanics_iff (signals : List TurnSignal) :
    session.obeyAllPanics now signals = true ↔
      (∃ request, .send request ∈ (session.obeyAll now signals).2) ∧
        Instant.limit ≤ now + session.ledger.lifetime := by
  induction signals generalizing session with
  | nil => simp [obeyAllPanics, obeyAll]
  | cons signal rest hypothesis =>
      simp only [obeyAllPanics, obeyAll, Bool.or_eq_true, obeyPanics_iff, hypothesis,
        obey_lifetime, List.mem_append, exists_or, or_and_right]

/-! ## Events and inputs -/

/-- An open session refuses an event that is a snapshot. -/
def RefusesBoard (session : Session) (event : ServerEvent) : Prop :=
  session.closed = false ∧ ∃ rows error, event = .boardSnapshot rows ∧
    Snapshot.decode rows >>= session.board.applySnapshot = .error error

/-- Of all events only a snapshot that is refused makes a session send something. -/
theorem send_mem_handle_iff {event : ServerEvent} :
    (∃ request, .send request ∈ (session.step (.handle event now)).effects) ↔
      session.RefusesBoard event := by
  constructor
  · rintro ⟨request, sent⟩
    cases isClosed : session.closed with
    | true => simp [(step_of_closed isClosed _).2] at sent
    | false =>
        have stepped := stepped_handle isClosed event now
        generalize session.step (.handle event now) = outcome at stepped sent
        cases stepped with
        | snapshotRefused rows now error ledger refused =>
            exact ⟨isClosed, rows, error, rfl, refused⟩
        | turnChanged => exact absurd sent (send_notMem_turnChanged _ _ _ _)
        | _ =>
            simp [gameStarted, cellsPlaced, placementRejected, gameEnded, disconnected, teardown]
              at sent
  · rintro ⟨isOpen, rows, error, rfl, refused⟩
    simp [step, handle, isOpen, session.boardSnapshot_of_refused now refused]

/-- A confirmation sends a request exactly if it answers with one. -/
theorem send_mem_confirm_iff :
    (∃ request, .send request ∈ (session.step (.confirm now)).effects) ↔
      ∃ request, (session.step (.confirm now)).answer = .confirmed (.ok request) := by
  simp only [step, confirm]
  split
  · simp
  · cases (session.prediction.confirm session.localSlot session.turn session.ledger now).answer with
    | ok request => simp
    | error error => cases error <;> simp

theorem snapshotPanics_iff {rows : List (List Int)} : session.snapshotPanics rows now = true ↔
    (∃ error, Snapshot.decode rows >>= session.board.applySnapshot = .error error) ∧
      Instant.limit ≤ now + session.ledger.lifetime := by
  unfold snapshotPanics
  cases decoded : Snapshot.decode rows >>= session.board.applySnapshot with
  | ok result => simp [decoded]
  | error error =>
      have free : (session.ledger.release (.resync session.localSlot)).holds
          (.resync session.localSlot) = false := Ledger.holds_release_self
      simp only [decoded, askPanics_iff]
      rw [askForSnapshot_of_not_holds _ now free]
      simp [Ledger.release, Ledger.filter]

theorem confirmPanics_iff (prediction : Prediction) (localSlot : Slot) (turn : TurnClock)
    (ledger : Ledger) : prediction.confirmPanics localSlot turn ledger now = true ↔
      (∃ request, (prediction.confirm localSlot turn ledger now).answer = .ok request) ∧
        Instant.limit ≤ now + ledger.lifetime := by
  cases prediction with
  | idle | confirmed => simp [Prediction.confirmPanics, Prediction.confirm]
  | previewing preview =>
      simp only [Prediction.confirmPanics, Prediction.confirm, Bool.and_eq_true, Ledger.panics_iff]
      cases turn.localTurnOpen now with
      | false => simp
      | true =>
          cases preview.locallyValid with
          | false => simp
          | true =>
              cases ledger.begin? (.placement localSlot preview.anchor preview.shape.piece) now <;>
                simp

/-- An open session runs into the end of the clock exactly when it sends something beyond it. -/
theorem outlastsClock_iff :
    session.outlastsClock call = true ↔ session.SendsBeyondClock call := by
  unfold SendsBeyondClock outlastsClock
  cases isClosed : session.closed with
  | true => simp [(step_of_closed isClosed call).2]
  | false =>
      simp only [Bool.not_false, Bool.true_and]
      cases call with
      | handle event now =>
          rw [send_mem_handle_iff]
          cases event <;> simp [RefusesBoard, isClosed, Call.time?, snapshotPanics_iff]
      | confirm now =>
          rw [send_mem_confirm_iff, confirmPanics_iff]
          simp [step, confirm, isClosed, Call.time?]
      | tick now =>
          simp only [obeyAllPanics_iff, step, tick, isClosed, Call.time?]
          simp [Ledger.sweep, Ledger.filter]
      | requestResync now =>
          simp [askPanics_iff, step, requestResync, isClosed, Call.time?]
      | select shape anchor now =>
          simp only [step, select, isClosed]
          cases session.prediction.select session.turn session.legality session.grid shape anchor
            now <;> simp
      | cancel => simp [Call.time?]
      | leave => simp [Call.time?]

/-! ## Calls -/

/-- A call panics exactly if it sends something beyond the end of the clock, or checks a number that
outgrows its width. -/
theorem call?_eq_none_iff : session.call? arithmetic call = none ↔
    session.SendsBeyondClock call ∨ (arithmetic = .checked ∧ session.outgrows call = true) := by
  rw [← outlastsClock_iff, ← decide_eq_true_eq (p := arithmetic = .checked), ← Bool.and_eq_true,
    ← Bool.or_eq_true, call?]
  split <;> simp_all [panics]

theorem call?_eq_none_of_outlasts (beyond : session.outlastsClock call = true)
    (arithmetic : Arithmetic) : session.call? arithmetic call = none :=
  call?_eq_none_iff.mpr (.inl (outlastsClock_iff.mp beyond))

/-- A call that returns leads to what `Session.step` says. -/
theorem call?_eq_some_of_ne_none (returned : session.call? arithmetic call ≠ none) :
    session.call? arithmetic call = some (session.step call) := by
  unfold call? at returned ⊢
  split <;> simp_all

theorem call?_eq_ite {panics : Prop} [Decidable panics]
    (characterized : session.call? arithmetic call = none ↔ panics) :
    session.call? arithmetic call = if panics then none else some (session.step call) := by
  split
  case isTrue panicked => exact characterized.mpr panicked
  case isFalse returned => exact call?_eq_some_of_ne_none (mt characterized.mp returned)

theorem call?_handle_eq_none_iff {event : ServerEvent} :
    session.call? arithmetic (.handle event now) = none ↔
      (session.RefusesBoard event ∧ Instant.limit ≤ now + session.ledger.lifetime) ∨
      (arithmetic = .checked ∧ session.outgrows (.handle event now) = true) := by
  simp [call?_eq_none_iff, SendsBeyondClock, send_mem_handle_iff, Call.time?]

theorem call?_select_eq_none_iff (isOpen : session.closed = false) {shape : Shape}
    {anchor : Position} : session.call? arithmetic (.select shape anchor now) = none ↔
      arithmetic = .checked ∧ session.prediction.isAwaiting = false ∧
        session.turn.localTurnOpen now = true ∧ shape.outgrows anchor = true := by
  have silent : session.outlastsClock (.select shape anchor now) = false := by
    simp [outlastsClock]
  rw [call?_eq_none_iff, ← outlastsClock_iff, silent]
  simp [outgrows, isOpen, and_assoc]

theorem call?_confirm_eq_none_iff : session.call? arithmetic (.confirm now) = none ↔
    (∃ request, (session.step (.confirm now)).answer = .confirmed (.ok request)) ∧
      Instant.limit ≤ now + session.ledger.lifetime := by
  simp [call?_eq_none_iff, SendsBeyondClock, send_mem_confirm_iff, Call.time?, outgrows]

/-- Cancelling begins no request and computes nothing. -/
theorem call?_cancel_ne_none : session.call? arithmetic .cancel ≠ none := by
  simp [call?_eq_none_iff, SendsBeyondClock, Call.time?, outgrows]

/-- All calls return that are made so long before the end of the clock as keys last, unless numbers
are checked. -/
theorem returns_of_lasting (calls : List Call)
    (lasting : ∀ call ∈ calls, ∀ now, call.time? = some now →
      now + session.ledger.lifetime < Instant.limit) :
    session.returns .wrapping calls = true := by
  induction calls generalizing session with
  | nil => rfl
  | cons call rest hypothesis =>
      have later : (session.step call).session.returns .wrapping rest = true :=
        hypothesis fun other other_mem now made => by
          rw [step_lifetime]
          exact lasting other (List.mem_cons_of_mem _ other_mem) now made
      have returned : session.call? .wrapping call ≠ none := by
        rw [Ne, call?_eq_none_iff]
        rintro (⟨_, now, made, beyond⟩ | ⟨checked, _⟩)
        · exact Nat.not_lt.mpr beyond (lasting call List.mem_cons_self now made)
        · cases checked
      simp_all [returns, call?]

/-- If not all calls return, they do up to the first that panics. -/
theorem exists_panic_of_not_returns {calls : List Call}
    (fails : session.returns arithmetic calls = false) :
    ∃ earlier call later, calls = earlier ++ call :: later ∧
      session.returns arithmetic earlier = true ∧
      (session.after earlier).call? arithmetic call = none := by
  induction calls generalizing session with
  | nil => exact absurd fails (by simp [returns])
  | cons call rest hypothesis =>
      cases panicked : session.panics arithmetic call with
      | true => exact ⟨[], call, rest, rfl, rfl, by simp [call?, panicked]⟩
      | false =>
          simp only [returns, panicked, Bool.not_false, Bool.true_and] at fails
          rcases hypothesis fails with ⟨earlier, last, later, rfl, returned, stops⟩
          exact ⟨call :: earlier, last, later, rfl, by simp [returns, panicked, returned], stops⟩

/-! ## The lifetime of keys -/

section Lifetime

variable {roomId : String} {number : Int} {timing : Timing} {legality : LegalityRule}

theorem lifetime_of_join (joined : join roomId number timing legality = .ok session) :
    session.ledger.lifetime = timing.lifetime := by
  rcases of_join joined with ⟨slot, _, rfl⟩
  rfl

/-- Keys last in every session of a run as long as the session that joined was told. -/
theorem lifetime_after_join (joined : join roomId number timing legality = .ok session)
    (calls : List Call) : (session.after calls).ledger.lifetime = timing.lifetime :=
  (session.after_lifetime calls).trans (lifetime_of_join joined)

/-- Without checks of numbers, a run from the start returns whose times leave room for keys. -/
theorem returns_of_allows (joined : join roomId number timing legality = .ok session)
    {calls : List Call} (allowed : timing.Allows calls) :
    session.returns .wrapping calls = true := by
  apply returns_of_lasting
  rwa [lifetime_of_join joined]

theorem lifetime_of_history (joined : join roomId number timing legality = .ok session)
    {calls : List Call} {past later : List Moment} {moment : Moment}
    (split : session.history calls = past ++ moment :: later) :
    moment.before.ledger.lifetime = timing.lifetime := by
  rcases exists_calls_of_history split with ⟨first, _, _, _, before, _⟩
  rw [before]
  exact lifetime_after_join joined first

end Lifetime

end Session

/-! ## Moments -/

namespace Moment

variable {moment : Moment} {arithmetic : Arithmetic} {now : Instant}

theorem panics_iff : moment.Panics arithmetic ↔
    ((∃ request, request ∈ moment.sent) ∧ ∃ now, moment.call.time? = some now ∧
      Instant.limit ≤ now + moment.before.ledger.lifetime) ∨
    (arithmetic = .checked ∧ moment.before.outgrows moment.call = true) := by
  simp only [mem_sent_iff]
  exact Session.call?_eq_none_iff

/-- A call that computes nothing wide panics exactly if it sends something beyond the end of the
clock. -/
theorem panics_iff_of_narrow (made : moment.call.time? = some now)
    (narrow : moment.before.outgrows moment.call = false) : moment.Panics arithmetic ↔
    (∃ request, request ∈ moment.sent) ∧
      Instant.limit ≤ now + moment.before.ledger.lifetime := by
  simp [panics_iff, made, narrow]

end Moment

/-- All calls of a run return if none of its moments panics. -/
theorem Session.returns_iff {session : Session} {arithmetic : Arithmetic} {calls : List Call} :
    session.returns arithmetic calls = true ↔
      ∀ moment ∈ session.history calls, ¬moment.Panics arithmetic := by
  induction calls generalizing session with
  | nil => simp [returns, history]
  | cons call rest hypothesis =>
      simp [returns, history, hypothesis, Moment.Panics, call?]

/-! ## Lifetimes without an end -/

/-- Times with a lifetime that is longer than the clock. -/
def Timing.unending : Timing :=
  { standard with lifetime := .ofSeconds 9999999980506447872 }

theorem Settings.unending_accepted : ∃ settings,
    Settings.ofText? "(game: (dedup_ttl_seconds: 1e19))" = some settings ∧
      settings.game.timing = .unending := by
  apply Option.map_eq_some_iff.mp
  decide +kernel

end TileMatch
