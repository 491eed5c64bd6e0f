import TileMatch.Proofs.Replay.Clock
import TileMatch.Proofs.Session.Returning

/-!
# What a replay counts

A replay makes its calls one after the other and counts as it goes, and gets no further than a call
that panics. If all of them return, it ends in the session that the calls lead to, and it has
counted what their history holds. So the result of a replay is read off that history
(`Script.summary`), and nothing else that is said of replays looks at how they count.
-/

namespace TileMatch

namespace Replay

variable {script : Script} {session : Session} {arithmetic : Arithmetic}

/-! ## Making calls -/

/-- What has come of calls that were made in a session. -/
def Progress.ofCalls (session : Session) (calls : List Call) : Progress :=
  let moments := session.history calls
  let effects := moments.flatMap (·.outcome.effects)
  { session := session.after calls
    ticks := calls.countP isTick
    placements := effects.countP isPlacement
    passes := effects.count (.send .pass)
    resyncs := effects.count (.send .resync)
    dropped := moments.countP (isDropped ·.answer)
    refused := moments.countP (isRefused ·.answer)
    surfaced := (effects.filterMap surfaced?).reverse }

theorem Progress.made_ofCalls (session : Session) (past : List Call) (call : Call) :
    (ofCalls session past).made call ((session.after past).step call) =
      ofCalls session (past ++ [call]) := by
  have counted (found : Bool) : found.toNat = if found = true then 1 else 0 := by
    cases found <;> rfl
  simp [ofCalls, made, Session.history_append, Session.history, Session.after_append,
    Moment.outcome, Moment.answer, counted]

/-- After calls that have been made, a replay makes others if all of these return. -/
theorem Progress.foldlM_make? (past calls : List Call) :
    calls.foldlM (make? arithmetic) (ofCalls session past) =
      if (session.after past).returns arithmetic calls then some (ofCalls session (past ++ calls))
      else none := by
  induction calls generalizing past with
  | nil => simp [Session.returns]
  | cons call rest hypothesis =>
      have next := hypothesis (past ++ [call])
      rw [Session.after_append, List.append_assoc] at next
      rw [List.foldlM_cons, make?, Session.returns]
      change ((session.after past).call? arithmetic call).map _ >>= _ = _
      cases panicked : (session.after past).panics arithmetic call with
      | true => simp [Session.call?, panicked]
      | false =>
          simp only [Session.call?, panicked, Bool.false_eq_true, if_false, Option.map_some,
            Option.bind_eq_bind, Option.bind_some, made_ofCalls, Bool.not_false, Bool.true_and]
          exact next

theorem Progress.foldlM_start (arithmetic : Arithmetic) (session : Session) (calls : List Call) :
    calls.foldlM (make? arithmetic) (.start session) =
      if session.returns arithmetic calls then some (ofCalls session calls) else none :=
  foldlM_make? [] calls

/-! ## Results -/

/-- The result of a replay that has made calls in a session, as their history tells it. -/
def Script.summary (script : Script) (session : Session) (calls : List Call) : Summary :=
  let moments := session.history calls
  let effects := moments.flatMap (·.outcome.effects)
  { steps := script.steps.length
    ticks := (calls.countP isTick - script.steps.length) % UInt64.size
    placements := effects.countP isPlacement
    passes := effects.count (.send .pass)
    resyncs := effects.count (.send .resync)
    dropped := moments.countP (isDropped ·.answer)
    refused := moments.countP (isRefused ·.answer)
    surfaced := effects.filterMap surfaced?
    occupied := (session.after calls).grid.occupied }

/-- Whether a replay that makes calls in a session gets to its end: all of them return, and where
arithmetic is checked neither the time of the end nor the number of ticks outgrows its width. -/
def Script.completes (script : Script) (arithmetic : Arithmetic) (session : Session)
    (calls : List Call) : Bool :=
  session.returns arithmetic calls &&
    !(arithmetic = .checked && script.outgrows (calls.countP isTick - script.steps.length))

theorem Script.completes_iff {calls : List Call} :
    script.completes arithmetic session calls = true ↔
      (∀ moment ∈ session.history calls, ¬moment.Panics arithmetic) ∧
        (arithmetic = .checked → script.finishMilliseconds < UInt64.size ∧
          calls.countP isTick - script.steps.length < UInt64.size) := by
  rw [← Session.returns_iff]
  cases arithmetic <;> simp [completes, outgrows]

theorem Script.result_ofCalls (script : Script) (session : Session) (calls : List Call) :
    script.result (.ofCalls session calls) = script.summary session calls := by
  simp [result, summary, Progress.ofCalls]

section

variable {timing : Timing} {ticksPerSecond : Nat}

/-- Without a seat for the local player no call is made. -/
theorem Script.replay_of_not_joined {error : SyncError}
    (refused : Session.join script.roomId script.localSlot timing .occupancy = .error error) :
    script.replay arithmetic timing ticksPerSecond = .error (.session error) := by
  rw [replay, refused]

theorem Script.replay_of_joined
    (joined : Session.join script.roomId script.localSlot timing .occupancy = .ok session) :
    script.replay arithmetic timing ticksPerSecond =
      if tickPeriod ticksPerSecond = 0 then .error .stalled
      else if script.completes arithmetic session (script.calls (tickPeriod ticksPerSecond)) then
        .ok (script.summary session (script.calls (tickPeriod ticksPerSecond)))
      else .error .panicked := by
  rw [replay, joined]
  simp only [Progress.foldlM_start]
  -- The fold comes to nothing exactly if a call panics, and the checks at the end are those of
  -- `completes`.
  split
  case isTrue => rfl
  case isFalse =>
    cases returned : session.returns arithmetic (script.calls (tickPeriod ticksPerSecond)) with
    | false => simp [Script.completes, returned]
    | true =>
        have ticks (calls : List Call) :
            (Progress.ofCalls session calls).ticks = calls.countP isTick := rfl
        simp only [if_true, ticks, Script.result_ofCalls, Script.completes, returned,
          Bool.true_and]
        cases (decide (arithmetic = .checked) && script.outgrows _) <;> rfl

/-- A replay in a session makes these calls, and comes to their result unless one of them panics. -/
structure Script.ComesTo (script : Script) (timing : Timing) (ticksPerSecond : Nat)
    (session : Session) (calls : List Call) : Prop where
  /-- Unless one panics, the loops of the replay make these calls and no others. -/
  made : ∀ other, script.Makes (tickPeriod ticksPerSecond) other ↔ other = calls
  /-- Made one after the other, the calls lead to the session after them and are counted. -/
  accounted : ∀ arithmetic,
    calls.foldlM (Progress.make? arithmetic) (.start session) =
      if session.returns arithmetic calls then some (.ofCalls session calls) else none
  /-- Otherwise they are made, and counted, up to the first that panics. -/
  stopped : ∀ arithmetic, session.returns arithmetic calls = false →
    ∃ earlier call later, calls = earlier ++ call :: later ∧
      earlier.foldlM (Progress.make? arithmetic) (.start session) =
        some (.ofCalls session earlier) ∧
      (session.after earlier).call? arithmetic call = none
  returned : ∀ arithmetic, script.replay arithmetic timing ticksPerSecond =
    if script.completes arithmetic session calls then .ok (script.summary session calls)
    else .error .panicked
  completes_iff : ∀ arithmetic, script.completes arithmetic session calls = true ↔
    (∀ moment ∈ session.history calls, ¬moment.Panics arithmetic) ∧
      (arithmetic = .checked → script.finishMilliseconds < UInt64.size ∧
        calls.countP isTick - script.steps.length < UInt64.size)
  /-- If the times of the calls leave room for keys, none panics unless numbers are checked. -/
  allowed : timing.Allows calls → script.completes .wrapping session calls = true

theorem Script.comesTo (script : Script) (positive : 0 < tickPeriod ticksPerSecond)
    (joined : Session.join script.roomId script.localSlot timing .occupancy = .ok session) :
    script.ComesTo timing ticksPerSecond session (script.calls (tickPeriod ticksPerSecond)) where
  made other := by rw [script.makes_iff, and_iff_right positive]
  accounted arithmetic := Progress.foldlM_start arithmetic session _
  stopped arithmetic fails := by
    rcases Session.exists_panic_of_not_returns fails with
      ⟨earlier, call, later, split, returned, stops⟩
    exact ⟨earlier, call, later, split, by rw [Progress.foldlM_start, if_pos returned], stops⟩
  returned arithmetic := by rw [replay_of_joined joined, if_neg (Nat.ne_of_gt positive)]
  completes_iff arithmetic := script.completes_iff
  allowed := fun leave => by simp [completes, Session.returns_of_allows joined leave]

end

end Replay

end TileMatch
