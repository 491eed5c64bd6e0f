import TileMatch.Replay

/-!
# The clock of a replay

The clock of a replay runs up to a target in a loop: it goes on by one period, with a tick, for as
long as another period fits. `Advances` is that loop as it runs, so that there is only something for
it to be related to when the loop ends. It ends with the ticks of `ticksUntil` when periods have a
length, and each of them is later than the one before; periods without a length never bring the
clock past its target.
-/

namespace TileMatch

namespace Replay

/-- A run of the loop that ends, from the time of the clock: its ticks, and where the clock then
stands. -/
inductive Advances (period : Duration) (target : Instant) : Instant → List Instant → Instant → Prop
  | arrived {clock : Instant} (past : target < clock + period) :
    Advances period target clock [] (max clock target)
  | ticked {clock stop : Instant} {ticks : List Instant} (due : clock + period ≤ target)
    (rest : Advances period target (clock + period) ticks stop) :
    Advances period target clock ((clock + period) :: ticks) stop

section Clock

variable {period : Duration} {clock target stop : Instant} {ticks : List Instant}

/-! ## Ticks one after the other -/

theorem ticksUntil_of_lt (past : target < clock + period) :
    ticksUntil period clock target = [] := by
  have short : (target - clock) / period = 0 := by
    rcases Nat.lt_or_ge target clock with behind | before
    · rw [Nat.sub_eq_zero_of_le (Nat.le_of_lt behind), Nat.zero_div]
    · exact Nat.div_eq_of_lt (Nat.sub_lt_left_of_lt_add before past)
  rw [ticksUntil, short, List.range_zero, List.map_nil]

theorem ticksUntil_of_le (positive : 0 < period) (due : clock + period ≤ target) :
    ticksUntil period clock target =
      (clock + period) :: ticksUntil period (clock + period) target := by
  have one : (target - clock) / period = (target - (clock + period)) / period + 1 := by
    rw [← Nat.sub_sub, Nat.div_eq_sub_div positive (Nat.le_sub_of_add_le' due)]
  rw [ticksUntil, one, List.range_succ_eq_map, List.map_cons, List.map_map, ticksUntil,
    Nat.zero_add, Nat.one_mul]
  congr 1
  refine List.map_congr_left fun count _ => ?_
  rw [Function.comp, Nat.succ_eq_add_one, Nat.add_mul (count + 1), Nat.one_mul,
    Nat.add_comm (_ * period), Nat.add_assoc]

/-! ## Runs of the loop -/

/-- With periods that have a length, the loop ends. -/
theorem advances_ticksUntil (positive : 0 < period) (clock target : Instant) :
    Advances period target clock (ticksUntil period clock target) (max clock target) := by
  -- What is left to the target gets shorter with every tick.
  induction left_eq : target - clock using Nat.strongRecOn generalizing clock with
  | ind left hypothesis =>
      rcases Nat.lt_or_ge target (clock + period) with past | due
      · rw [ticksUntil_of_lt past]
        exact .arrived past
      · rw [ticksUntil_of_le positive due]
        have before : clock < clock + period := Nat.lt_add_of_pos_right positive
        have shorter : target - (clock + period) < left :=
          left_eq ▸ Nat.sub_lt_sub_left (Nat.lt_of_lt_of_le before due) before
        have rest := hypothesis _ shorter (clock + period) rfl
        rw [Nat.max_eq_right due] at rest
        rw [Nat.max_eq_right (Nat.le_trans (Nat.le_of_lt before) due)]
        exact .ticked due rest

theorem Advances.unique {others : List Instant} {final : Instant}
    (first : Advances period target clock ticks stop)
    (second : Advances period target clock others final) : ticks = others ∧ stop = final := by
  induction first generalizing others final with
  | arrived past =>
      cases second with
      | arrived => exact ⟨rfl, rfl⟩
      | ticked due => exact absurd past (Nat.not_lt.mpr due)
  | ticked due rest hypothesis =>
      cases second with
      | arrived past => exact absurd past (Nat.not_lt.mpr due)
      | ticked _ otherRest =>
          obtain ⟨sameTicks, sameStop⟩ := hypothesis otherRest
          exact ⟨congrArg _ sameTicks, sameStop⟩

/-- Every tick brings the clock closer to its target, and none beyond it. -/
theorem Advances.increasing (positive : 0 < period)
    (run : Advances period target clock ticks stop) :
    (clock :: ticks).Pairwise (· < ·) ∧ ∀ tick ∈ ticks, tick ≤ target := by
  induction run with
  | arrived => exact ⟨List.pairwise_singleton _ _, List.forall_mem_nil _⟩
  | @ticked clock stop ticks due rest hypothesis =>
      obtain ⟨later, upTo⟩ := hypothesis
      refine ⟨List.pairwise_cons.mpr ⟨fun tick mem => ?_, later⟩,
        List.forall_mem_cons.mpr ⟨due, upTo⟩⟩
      have before : clock < clock + period := Nat.lt_add_of_pos_right positive
      rcases List.mem_cons.mp mem with rfl | mem
      · exact before
      · exact Nat.lt_trans before ((List.pairwise_cons.mp later).1 tick mem)

/-- Without a length of periods, the clock stays where it is and the loop has no end. -/
theorem not_advances_zero (before : clock ≤ target) : ¬Advances 0 target clock ticks stop := by
  intro run
  induction run with
  | arrived past => exact absurd past (Nat.not_lt.mpr before)
  | ticked _ _ hypothesis => exact hypothesis before

end Clock

/-! ## Whole replays -/

/-- A run over steps that ends, from the time of the clock: the calls that are made, and where the
clock then stands. -/
inductive Plays (period : Duration) : Instant → List Step → List Call → Instant → Prop
  | done (clock : Instant) : Plays period clock [] [] clock
  | step {clock now final : Instant} {step : Step} {rest : List Step} {ticks : List Instant}
    {calls : List Call} (advance : Advances period step.time clock ticks now)
    (later : Plays period now rest calls final) :
    Plays period clock (step :: rest)
      (ticks.map Call.tick ++ step.action.call now :: .tick now :: calls) final

/-- A replay that ends has made these calls: those of its steps, and the ticks after the last. -/
def Script.Makes (script : Script) (period : Duration) (calls : List Call) : Prop :=
  ∃ made clock ticks stop, Plays period 0 script.steps made clock ∧
    Advances period script.finish clock ticks stop ∧ calls = made ++ ticks.map Call.tick

section Whole

variable {period : Duration} {clock final : Instant} {steps : List Step} {calls : List Call}

theorem callsFrom_cons (period : Duration) (clock : Instant) (step : Step) (rest : List Step) :
    callsFrom period clock (step :: rest) =
      ((ticksUntil period clock step.time).map Call.tick ++
        step.action.call (max clock step.time) :: .tick (max clock step.time) ::
          (callsFrom period (max clock step.time) rest).1,
        (callsFrom period (max clock step.time) rest).2) := rfl

theorem plays_callsFrom (positive : 0 < period) (clock : Instant) (steps : List Step) :
    Plays period clock steps (callsFrom period clock steps).1 (callsFrom period clock steps).2 := by
  induction steps generalizing clock with
  | nil => exact .done clock
  | cons step rest hypothesis =>
      rw [callsFrom_cons]
      exact .step (advances_ticksUntil positive clock step.time) (hypothesis _)

theorem Plays.unique {others : List Call} {otherFinal : Instant}
    (first : Plays period clock steps calls final)
    (second : Plays period clock steps others otherFinal) :
    calls = others ∧ final = otherFinal := by
  induction first generalizing others otherFinal with
  | done =>
      cases second
      exact ⟨rfl, rfl⟩
  | step advance later hypothesis =>
      cases second with
      | step otherAdvance otherLater =>
          obtain ⟨rfl, rfl⟩ := advance.unique otherAdvance
          obtain ⟨rfl, rfl⟩ := hypothesis otherLater
          exact ⟨rfl, rfl⟩

/-- A replay ends exactly if periods have a length, and then makes the calls of the script. -/
theorem Script.makes_iff (script : Script) (period : Duration) (calls : List Call) :
    script.Makes period calls ↔ 0 < period ∧ calls = script.calls period := by
  constructor
  · rintro ⟨made, clock, ticks, stop, plays, advance, rfl⟩
    rcases Nat.eq_zero_or_pos period with rfl | positive
    · -- Time starts at zero, which is not behind the target of the first loop.
      cases start : script.steps with
      | nil =>
          rw [start] at plays
          cases plays
          exact absurd advance (not_advances_zero (Nat.zero_le _))
      | cons step rest =>
          rw [start] at plays
          cases plays with
          | step first _ => exact absurd first (not_advances_zero (Nat.zero_le _))
    · obtain ⟨rfl, rfl⟩ := plays.unique (plays_callsFrom positive 0 script.steps)
      obtain ⟨rfl, -⟩ := advance.unique (advances_ticksUntil positive _ script.finish)
      exact ⟨positive, rfl⟩
  · rintro ⟨positive, rfl⟩
    exact ⟨_, _, _, _, plays_callsFrom positive 0 script.steps,
      advances_ticksUntil positive _ script.finish, rfl⟩

end Whole

/-! ## The length of a period -/

theorem tickPeriod_pos_iff (ticksPerSecond : Nat) :
    0 < tickPeriod ticksPerSecond ↔ ticksPerSecond ≤ Duration.second := by
  rw [tickPeriod, Nat.div_pos_iff, Nat.max_le]
  exact ⟨fun fits => fits.2.1, fun fits => ⟨Nat.le_max_right _ 1, fits, by decide⟩⟩

end Replay

end TileMatch
