import TileMatch.Proofs.Replay.Schedule

/-!
# The run-out of a replay

After its last step a replay goes on ticking, so that what is still due can happen. The end of this
run-out is counted from the time of the last step in the script, whereas the clock may be past that
time, since it never goes backwards. By as much as it is (`Script.overrun`) the run-out is shorter
than the script says, and it loses all the ticks that would fall into that time.
-/

namespace TileMatch

namespace Replay

/-- By how much the clock is past the time of the last step when that step is made. -/
def Script.overrun (script : Script) (last : Step) : Duration :=
  script.clockAt script.steps.length - last.time

/-- The time that the script gives the run-out. -/
def Script.runOut (script : Script) : Duration := Duration.ofMilliseconds script.runOutMilliseconds

section

variable {script : Script} {last : Step} {period clock target other : Nat}

/-! ## Ticks up to one target or another -/

/-- What is taken off a time costs no whole period exactly if it is taken off the remainder. -/
theorem sub_div_eq_div_iff (delay total : Nat) (positive : 0 < period) :
    (total - delay) / period = total / period ↔ delay ≤ total % period ∨ total < period := by
  have split := Nat.div_add_mod total period
  constructor
  · intro same
    rcases Nat.lt_or_ge total period with short | long
    · exact .inr short
    · left
      have whole : 0 < total / period := Nat.div_pos long positive
      have fits := Nat.mul_div_le (total - delay) period
      have room : 0 < period * (total / period) := Nat.mul_pos positive whole
      rw [same] at fits
      omega
  · rintro (spare | short)
    · have below := Nat.mod_lt total positive
      have rest : total - delay = total % period - delay + period * (total / period) := by omega
      rw [rest, Nat.add_mul_div_left _ _ positive, Nat.div_eq_of_lt (by omega), Nat.zero_add]
    · rw [Nat.div_eq_of_lt short, Nat.div_eq_of_lt (by omega)]

/-- The ticks up to two targets are the same if there are as many of them. -/
theorem ticksUntil_eq_iff : ticksUntil period clock target = ticksUntil period clock other ↔
    (ticksUntil period clock target).length = (ticksUntil period clock other).length := by
  constructor
  · exact congrArg List.length
  · intro same
    rw [length_ticksUntil, length_ticksUntil] at same
    rw [ticksUntil, ticksUntil, same]

/-! ## The last step -/

theorem Script.time_le_clockAt (ends : script.steps.getLast? = some last) :
    last.time ≤ script.clockAt script.steps.length := by
  rcases List.getLast?_eq_some_iff.mp ends with ⟨earlier, steps⟩
  rw [Script.clockAt_length, steps, clockAfter_append]
  exact Nat.le_max_right _ _

theorem clockAfter_le {clock bound : Instant} {steps : List Step} (start : clock ≤ bound)
    (bounded : ∀ step ∈ steps, step.time ≤ bound) : clockAfter clock steps ≤ bound := by
  induction steps generalizing clock with
  | nil => exact start
  | cons step rest hypothesis =>
      apply hypothesis
      · exact Nat.max_le.mpr ⟨start, bounded step List.mem_cons_self⟩
      · intro other other_mem
        exact bounded other (List.mem_cons_of_mem _ other_mem)

/-- A last step that no step is later than is made on time. -/
theorem Script.overrun_of_latest (latest : ∀ step ∈ script.steps, step.time ≤ last.time) :
    script.overrun last = 0 := by
  apply Nat.sub_eq_zero_of_le
  rw [Script.clockAt_length]
  exact clockAfter_le (Nat.zero_le _) latest

theorem Script.finish_eq (ends : script.steps.getLast? = some last)
    (fits : script.finishMilliseconds < UInt64.size) :
    script.finish = last.time + script.runOut := by
  unfold Script.finish Script.runOut Step.time Duration.ofMilliseconds
  rw [Nat.mod_eq_of_lt fits, Script.finishMilliseconds, ends, ← Nat.add_mul]
  rfl

/-- The calls from the last step of a replay on: the step, one more tick, and those of the
run-out. -/
def Script.ending (script : Script) (last : Step) (ticks : List Instant) : List Call :=
  last.action.call (script.clockAt script.steps.length) ::
    .tick (script.clockAt script.steps.length) :: ticks.map .tick

theorem Script.exists_calls_eq (period : Duration) (ends : script.steps.getLast? = some last) :
    ∃ earlier, script.calls period = earlier ++ script.ending last
      (ticksUntil period (script.clockAt script.steps.length) script.finish) := by
  rcases List.getLast?_eq_some_iff.mp ends with ⟨earlier, steps⟩
  have listed : script.steps[earlier.length]? = some last := by simp [steps]
  have count : script.steps.length = earlier.length + 1 := by simp [steps]
  have now := Script.clockAt_succ listed
  rw [← count] at now
  unfold Script.ending
  rw [Script.calls_eq, now, steps, List.zipIdx_append, List.flatMap_append]
  simp only [List.zipIdx_singleton, List.flatMap_singleton, Step.calls, Nat.zero_add,
    List.append_assoc, List.cons_append, List.nil_append]
  rw [← List.append_assoc]
  exact ⟨_, rfl⟩

end

/-- How a replay in a session runs out after its last step, with these ticks. -/
structure Script.RunsOut (script : Script) (timing : Timing) (ticksPerSecond : Nat)
    (session : Session) (last : Step) (ticks : List Instant) : Prop where
  /-- The replay makes its last step where the clock stands, one more tick, and then these. -/
  made : ∃ earlier,
    script.ComesTo timing ticksPerSecond session (earlier ++ script.ending last ticks)
  /-- As many ticks fit into the run-out without what the clock is ahead. -/
  counted : ticks.length = (script.runOut - script.overrun last) / tickPeriod ticksPerSecond
  /-- The run-out is ticked through to its end if what the clock is ahead leaves out no tick. -/
  complete_iff : ticks = ticksUntil (tickPeriod ticksPerSecond)
      (script.clockAt script.steps.length)
      (script.clockAt script.steps.length + script.runOut) ↔
    script.overrun last ≤ script.runOut % tickPeriod ticksPerSecond ∨
      script.runOut < tickPeriod ticksPerSecond
  all_iff : ticks.length = script.runOut / tickPeriod ticksPerSecond ↔
    script.overrun last ≤ script.runOut % tickPeriod ticksPerSecond ∨
      script.runOut < tickPeriod ticksPerSecond
  /-- So it is after a last step that no step is later than. -/
  latest : (∀ step ∈ script.steps, step.time ≤ last.time) → script.overrun last = 0

/-- At any rate up to a thousand million ticks in a second, a replay is ticked after its last step
for all of the run-out, if the clock is not past the time of that step by more than what whole
periods leave over of the run-out. Otherwise ticks are missing at the end. The end of the run-out
is one that can be told in sixty-four bits of milliseconds. -/
theorem run_out_complete_iff (script : Script) (timing : Timing) {ticksPerSecond : Nat}
    (slow : ticksPerSecond ≤ 1000000000) {session : Session}
    (joined : Session.join script.roomId script.localSlot timing .occupancy = .ok session)
    {last : Step} (ends : script.steps.getLast? = some last)
    (fits : script.finishMilliseconds < UInt64.size) :
    ∃ ticks, script.RunsOut timing ticksPerSecond session last ticks := by
  have positive : 0 < tickPeriod ticksPerSecond := (tickPeriod_pos_iff _).mpr slow
  have reached := Script.time_le_clockAt ends
  have left : script.finish - script.clockAt script.steps.length =
      script.runOut - script.overrun last := by
    rw [Script.finish_eq ends fits, Script.overrun, Nat.sub_sub_right _ reached, Nat.add_comm]
  have counted := length_ticksUntil (tickPeriod ticksPerSecond)
    (script.clockAt script.steps.length) script.finish
  rw [left] at counted
  have all_iff := sub_div_eq_div_iff (script.overrun last) script.runOut positive
  rw [← counted] at all_iff
  refine ⟨_, {
    made := ?made
    counted
    complete_iff := ?complete
    all_iff
    latest := Script.overrun_of_latest }⟩
  case made =>
    rcases Script.exists_calls_eq (tickPeriod ticksPerSecond) ends with ⟨earlier, calls⟩
    exact ⟨earlier, calls ▸ script.comesTo positive joined⟩
  case complete =>
    rw [ticksUntil_eq_iff, length_ticksUntil _ _ (_ + _), Nat.add_sub_cancel_left]
    exact all_iff

/-- A step that comes later than the one below it by less than the run-out leaves over. -/
def slightlyLate : Script :=
  ⟨"room", 1, 1500, [⟨300, .server .gameStarted⟩, ⟨0, .input .cancel⟩]⟩

theorem slightlyLate_runs_out : ∃ session,
    Session.join "room" 1 .standard .occupancy = .ok session ∧
    slightlyLate.RunsOut .standard 1 session ⟨0, .input .cancel⟩ [1300000000] ∧
    slightlyLate.overrun ⟨0, .input .cancel⟩ = 300000000 := by
  have joined : Session.join "room" 1 .standard .occupancy = .ok _ := rfl
  have slow : 1 ≤ 1000000000 := by decide
  have ends : slightlyLate.steps.getLast? = some ⟨0, .input .cancel⟩ := rfl
  have fits : slightlyLate.finishMilliseconds < UInt64.size := by decide
  rcases run_out_complete_iff slightlyLate .standard slow joined ends fits with ⟨ticks, runsOut⟩
  have complete : ticks = [1300000000] :=
    (runsOut.complete_iff.mpr (.inl (by decide))).trans (by decide)
  subst complete
  exact ⟨_, joined, runsOut, by decide⟩

/-- A turn of a second, and below it a step with an earlier time. -/
def lateTurn : Script :=
  ⟨"room", 1, 1000, [⟨1000, .server (.turnChanged 1 none (.ofBits 0x3f800000) false 1)⟩,
    ⟨0, .server (.playerReady 1 true)⟩]⟩

/-- Nothing of a run-out of one second is left then. With one tick in a second there is none after
the last step, where there should be one, and the turn is not passed. -/
theorem run_out_cut_short : ∃ session summary,
    Session.join "room" 1 .standard .occupancy = .ok session ∧
    lateTurn.finishMilliseconds < UInt64.size ∧
    lateTurn.Makes (tickPeriod 1)
      [.tick 1000000000,
        .handle (.turnChanged 1 none (.ofBits 0x3f800000) false 1) 1000000000, .tick 1000000000,
        .handle (.playerReady 1 true) 1000000000, .tick 1000000000] ∧
    lateTurn.runOut / tickPeriod 1 = 1 ∧
    (∀ arithmetic, lateTurn.replay arithmetic .standard 1 = .ok summary) ∧ summary.ticks = 1 ∧
    summary.passes = 0 := by
  have makes := lateTurn.makes_iff (tickPeriod 1) (lateTurn.calls (tickPeriod 1))
  have replayed : lateTurn.replay .checked .standard 1 = .ok _ := rfl
  have same (arithmetic : Arithmetic) :
      lateTurn.replay arithmetic .standard 1 = lateTurn.replay .checked .standard 1 := by
    cases arithmetic <;> rfl
  exact ⟨_, _, rfl, by decide, makes.mpr ⟨by decide, rfl⟩, by decide,
    fun arithmetic => (same arithmetic).trans replayed, by decide, by decide⟩

end Replay

end TileMatch
