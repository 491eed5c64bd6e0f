import Mathlib.Algebra.BigOperators.Group.List.Basic
import Mathlib.Algebra.GroupWithZero.Nat
import Mathlib.Data.List.Chain
import TileMatch.Proofs.Replay.Ending

/-!
# The schedule of a replay

The clock of a replay stands at the latest of the times of the steps made so far (`clockAfter`):
every step takes it off the grid of its ticks, and a step with an earlier time leaves it where it
is. So each step begins a grid of its own, and all calls of a replay can be written down step by
step from the script alone (`callsFrom_eq`).

What is said of the order of the calls does not need that form. It is preserved by the loops of a
replay as they run, each of which takes up the clock where the one before has left it.
-/

namespace TileMatch

namespace Replay

/-- Where the clock stands after steps that begin at a point of time. -/
def clockAfter (clock : Instant) (steps : List Step) : Instant :=
  steps.foldl (fun clock step => max clock step.time) clock

/-- Where the clock of a replay stands after so many of its steps. -/
def Script.clockAt (script : Script) (count : Nat) : Instant :=
  clockAfter 0 (script.steps.take count)

/-- The calls for a step that finds the clock at a point of time. -/
def Step.calls (period : Duration) (clock : Instant) (step : Step) : List Call :=
  (ticksUntil period clock step.time).map .tick ++
    [step.action.call (max clock step.time), .tick (max clock step.time)]

/-- The time of a tick. -/
def tickTime? : Call → Option Instant
  | .tick now => some now
  | _ => none

/-- A point of time is not before another one, and no more than a period behind it. -/
def IsWithin (period : Duration) (earlier later : Instant) : Prop :=
  earlier ≤ later ∧ later ≤ earlier + period

/-! ## The calls step by step -/

section Steps

variable {script : Script} {step : Step}

@[simp]
theorem clockAfter_nil (clock : Instant) : clockAfter clock [] = clock := rfl

@[simp]
theorem clockAfter_cons (clock : Instant) (step : Step) (rest : List Step) :
    clockAfter clock (step :: rest) = clockAfter (max clock step.time) rest := rfl

theorem clockAfter_append (clock : Instant) (steps later : List Step) :
    clockAfter clock (steps ++ later) = clockAfter (clockAfter clock steps) later := by
  apply List.foldl_append

theorem Script.clockAt_succ {place : Nat} (listed : script.steps[place]? = some step) :
    script.clockAt (place + 1) = max (script.clockAt place) step.time := by
  unfold clockAt
  rw [List.take_add_one, listed, clockAfter_append]
  rfl

theorem Script.clockAt_length (script : Script) :
    script.clockAt script.steps.length = clockAfter 0 script.steps := by
  rw [clockAt, List.take_length]

theorem callsFrom_eq (period : Duration) (clock : Instant) (steps : List Step) :
    callsFrom period clock steps =
      (steps.zipIdx.flatMap fun entry =>
          entry.1.calls period (clockAfter clock (steps.take entry.2)),
        clockAfter clock steps) := by
  induction steps generalizing clock with
  | nil => rfl
  | cons step rest hypothesis =>
      rw [callsFrom_cons, hypothesis, List.zipIdx_cons']
      simp [List.flatMap_map, Step.calls]

theorem Script.calls_eq (script : Script) (period : Duration) :
    script.calls period =
      (script.steps.zipIdx.flatMap fun entry => entry.1.calls period (script.clockAt entry.2)) ++
        (ticksUntil period (script.clockAt script.steps.length) script.finish).map .tick := by
  rw [Script.clockAt_length, Script.calls, callsFrom_eq]
  rfl

end Steps

/-! ## How many ticks there are -/

@[simp]
theorem length_ticksUntil (period : Duration) (clock target : Instant) :
    (ticksUntil period clock target).length = (target - clock) / period := by
  simp [ticksUntil]

@[simp]
theorem countP_isTick_map_tick (times : List Instant) :
    (times.map Call.tick).countP isTick = times.length := by
  simp [List.countP_map, Function.comp_def, isTick]

@[simp]
theorem isTick_call (now : Instant) (action : Action) : isTick (action.call now) = false := by
  cases action with
  | server => rfl
  | input given => cases given <;> rfl

theorem countP_isTick_calls (period : Duration) (clock : Instant) (step : Step) :
    (step.calls period clock).countP isTick = (step.time - clock) / period + 1 := by
  unfold Step.calls
  rw [List.countP_append, List.countP_cons, isTick_call, countP_isTick_map_tick,
    length_ticksUntil]
  rfl

theorem Script.countP_isTick_calls (script : Script) (period : Duration) :
    (script.calls period).countP isTick =
      (script.steps.zipIdx.map fun entry =>
          (entry.1.time - script.clockAt entry.2) / period).sum +
        script.steps.length +
        (script.finish - script.clockAt script.steps.length) / period := by
  rw [Script.calls_eq, List.countP_append, List.countP_flatMap, countP_isTick_map_tick,
    length_ticksUntil]
  simp only [Function.comp_def, Replay.countP_isTick_calls]
  rw [List.sum_map_add]
  simp

/-! ## The order of the calls -/

section Order

variable {period : Duration} {clock target stop final : Instant} {ticks rest : List Instant}
  {steps : List Step} {calls : List Call} {read : Call → Option Instant}

/-- From where the clock stands to where it stops, no tick comes late. -/
theorem Advances.isChain (run : Advances period target clock ticks stop) :
    (clock :: (ticks ++ [stop])).IsChain (IsWithin period) := by
  induction run with
  | @arrived clock past =>
      have reached : IsWithin period clock (max clock target) :=
        ⟨Nat.le_max_left _ _, Nat.max_le.mpr ⟨Nat.le_add_right _ _, Nat.le_of_lt past⟩⟩
      exact List.isChain_pair.mpr reached
  | ticked due rest hypothesis =>
      apply List.IsChain.cons_cons
      · exact ⟨Nat.le_add_right _ _, Nat.le_refl _⟩
      · exact hypothesis

/-- Where the times of ticks are read, and with them those of any actions, none comes late. -/
theorem Plays.isChain (plays : Plays period clock steps calls final)
    (ofTick : ∀ time, read (.tick time) = some time)
    (ofAction : ∀ now (action : Action), ∀ time ∈ read (action.call now), time = now)
    (later : (final :: rest).IsChain (IsWithin period)) :
    (clock :: (calls.filterMap read ++ rest)).IsChain (IsWithin period) := by
  induction plays with
  | done => exact later
  | @step clock now final step others ticks calls advance _ hypothesis =>
      have before := advance.isChain
      have after := hypothesis later
      have same : IsWithin period now now := ⟨Nat.le_refl _, Nat.le_add_right _ _⟩
      have read_ticks : (ticks.map Call.tick).filterMap read = ticks := by
        simp [List.filterMap_map, ofTick]
      rw [List.filterMap_append, List.filterMap_cons, List.filterMap_cons, read_ticks, ofTick]
      cases acted : read (step.action.call now) with
      | none =>
          rw [List.append_assoc, List.cons_append, List.isChain_cons_split]
          exact ⟨before, after⟩
      | some time =>
          rw [ofAction now step.action time acted, List.append_assoc, List.cons_append,
            List.isChain_cons_split, List.cons_append]
          exact ⟨before, .cons_cons same after⟩

end Order

/-! ## Whole replays -/

/-- A replay in a session makes its calls on schedule, up to the first that panics if any does. -/
structure Script.IsOnTime (script : Script) (timing : Timing) (ticksPerSecond : Nat)
    (session : Session) (calls : List Call) (summary : Summary) : Prop
    extends script.ComesTo timing ticksPerSecond session calls where
  /-- The summary is that of the history of these calls in the session. -/
  summed : summary = script.summary session calls
  /-- The clock starts at zero, and a step brings it to its own time unless it is past that. -/
  start : script.clockAt 0 = 0
  next : ∀ (place : Nat) (step : Step), script.steps[place]? = some step →
    script.clockAt (place + 1) = max (script.clockAt place) step.time
  /-- Before each step there are the ticks that fit in from the step before, then comes the step,
  and then one more tick. The ticks of the run-out follow the last step. -/
  scheduled : calls =
    (script.steps.zipIdx.flatMap fun entry =>
      entry.1.calls (tickPeriod ticksPerSecond) (script.clockAt entry.2)) ++
    (ticksUntil (tickPeriod ticksPerSecond) (script.clockAt script.steps.length)
      script.finish).map .tick
  steps : summary.steps = script.steps.length
  ticks : summary.ticks =
    ((script.steps.zipIdx.map fun entry =>
      (entry.1.time - script.clockAt entry.2) / tickPeriod ticksPerSecond).sum +
    (script.finish - script.clockAt script.steps.length) / tickPeriod ticksPerSecond) %
      UInt64.size
  /-- Time never goes backwards. -/
  ordered : (calls.filterMap Call.time?).Pairwise (· ≤ ·)
  /-- From the start on, no tick is more than a period behind the one before. -/
  steady : (0 :: calls.filterMap tickTime?).IsChain (IsWithin (tickPeriod ticksPerSecond))

section Whole

variable {script : Script} {timing : Timing} {ticksPerSecond : Nat} {session : Session}
  {period : Duration} {calls : List Call} {read : Call → Option Instant}

theorem Script.isChain_of_makes (makes : script.Makes period calls)
    (ofTick : ∀ time, read (.tick time) = some time)
    (ofAction : ∀ now (action : Action), ∀ time ∈ read (action.call now), time = now) :
    (0 :: calls.filterMap read).IsChain (IsWithin period) := by
  rcases makes with ⟨made, clock, ticks, stop, plays, advance, rfl⟩
  have read_ticks : (ticks.map Call.tick).filterMap read = ticks := by
    simp [List.filterMap_map, ofTick]
  rw [List.filterMap_append, read_ticks]
  apply plays.isChain ofTick ofAction
  have runOut : ((clock :: ticks) ++ [stop]).IsChain (IsWithin period) := advance.isChain
  exact runOut.left_of_append

theorem time?_call (now : Instant) (action : Action) (time : Instant)
    (made : time ∈ (action.call now).time?) : time = now := by
  cases action with
  | server => simpa [Action.call, Call.time?, eq_comm] using made
  | input given =>
      cases given <;> simp_all [Action.call, LocalInput.call, Call.time?]

theorem tickTime?_call (now : Instant) (action : Action) : tickTime? (action.call now) = none := by
  cases action with
  | server => rfl
  | input given => cases given <;> rfl

/-- At any rate up to a thousand million ticks in a second, a replay makes the calls of its steps on
schedule, and counts the ticks before the steps and after the last one. It does not get to its end
if one of the calls panics; none does that is made a lifetime of keys before the end of the clock,
unless numbers are checked. -/
theorem replay_on_time (script : Script) (timing : Timing) {ticksPerSecond : Nat}
    (slow : ticksPerSecond ≤ 1000000000) {session : Session}
    (joined : Session.join script.roomId script.localSlot timing .occupancy = .ok session) :
    ∃ calls summary, script.IsOnTime timing ticksPerSecond session calls summary := by
  have positive : 0 < tickPeriod ticksPerSecond := (tickPeriod_pos_iff _).mpr slow
  have comes := script.comesTo positive joined
  have makes := (comes.made _).mpr rfl
  refine ⟨_, script.summary session (script.calls (tickPeriod ticksPerSecond)), {
    comes with
    summed := rfl
    start := rfl
    next := fun place step => Script.clockAt_succ
    scheduled := script.calls_eq _
    steps := rfl
    ticks := ?ticks
    ordered := ?ordered
    steady := ?steady }⟩
  case ticks =>
    have counted := script.countP_isTick_calls (tickPeriod ticksPerSecond)
    simp only [Script.summary, counted]
    rw [Nat.add_right_comm, Nat.add_sub_cancel]
  case ordered =>
    apply List.Pairwise.of_cons (a := 0)
    apply List.isChain_iff_pairwise.mp
    exact (Script.isChain_of_makes makes (fun _ => rfl) time?_call).imp fun _ _ => And.left
  case steady =>
    apply Script.isChain_of_makes makes
    · exact fun _ => rfl
    · simp [tickTime?_call]

/-- A script with a step whose time is before that of the step above it. -/
def outOfOrder : Script :=
  ⟨"room", 1, 6, [⟨10, .server .gameStarted⟩, ⟨3, .input .cancel⟩, ⟨15, .input .confirm⟩]⟩

theorem outOfOrder_on_time : ∃ session summary,
    Session.join "room" 1 .standard .occupancy = .ok session ∧
    outOfOrder.IsOnTime .standard 250 session
      [.tick 4000000, .tick 8000000, .handle .gameStarted 10000000, .tick 10000000, .cancel,
        .tick 10000000, .tick 14000000, .confirm 15000000, .tick 15000000, .tick 19000000]
      summary ∧
    summary.steps = 3 ∧ summary.ticks = 4 := by
  have joined : Session.join "room" 1 .standard .occupancy = .ok _ := rfl
  have slow : 250 ≤ 1000000000 := by decide
  rcases replay_on_time outOfOrder .standard slow joined with ⟨calls, summary, onTime⟩
  have made : calls = [.tick 4000000, .tick 8000000, .handle .gameStarted 10000000,
      .tick 10000000, .cancel, .tick 10000000, .tick 14000000, .confirm 15000000,
      .tick 15000000, .tick 19000000] := onTime.scheduled.trans (by decide)
  subst made
  exact ⟨_, summary, joined, onTime, onTime.steps, onTime.ticks.trans (by decide)⟩

/-- A turn of one second and a step one second behind its end. -/
def expiredBetween : Script :=
  ⟨"room", 1, 0, [⟨0, .server (.turnChanged 1 none (.ofBits 0x3f800000) false 1)⟩,
    ⟨2000, .server .gameStarted⟩]⟩

/-- With keys that outlast every clock, the second step is never made: the tick that finds the turn
expired panics, and with it the replay. -/
theorem step_behind_expiry_unmade : ∃ settings,
    Settings.ofText? "(game: (dedup_ttl_seconds: 1e19))" = some settings ∧
      settings.game.timing = .unending ∧
      let earlier : List Call :=
        [.handle (.turnChanged 1 none (.ofBits 0x3f800000) false 1) 0, .tick 0]
      let later : List Call := [.tick 2000000000, .handle .gameStarted 2000000000, .tick 2000000000]
      ∃ session, Session.join "room" 1 settings.game.timing .occupancy = .ok session ∧
        expiredBetween.Makes (tickPeriod 1) (earlier ++ .tick 1000000000 :: later) ∧
        ∀ arithmetic, session.returns arithmetic earlier = true ∧
          (session.after earlier).call? arithmetic (.tick 1000000000) = none ∧
          expiredBetween.replay arithmetic settings.game.timing 1 = .error .panicked := by
  rcases Settings.unending_accepted with ⟨settings, accepted, timing⟩
  refine ⟨settings, accepted, timing, ?_⟩
  intro earlier later
  have makes := expiredBetween.makes_iff (tickPeriod 1) (expiredBetween.calls (tickPeriod 1))
  have made := makes.mpr ⟨by decide, rfl⟩
  rw [timing]
  refine ⟨_, rfl, made, fun arithmetic => ?_⟩
  cases arithmetic <;> exact ⟨by decide, by decide, by decide⟩

end Whole

end Replay

end TileMatch
