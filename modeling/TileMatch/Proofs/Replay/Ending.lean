import TileMatch.Proofs.Replay.Accounting
import TileMatch.Proofs.Settings

/-!
# Whether a replay ends

A replay ends at every rate up to a thousand million ticks in a second: with the result of the calls
that its loops make, or at the first of them that panics. Settings are accepted with greater rates
too; then a tick has no length, none of the loops of a replay has an end, and neither has the
replay.
-/

namespace TileMatch

namespace Replay

/-- A replay in a session ends: all its loops do, with ticks that bring the clock ever closer to its
target, and it comes to the result of its calls. -/
structure Script.Ends (script : Script) (timing : Timing) (ticksPerSecond : Nat)
    (session : Session) : Prop where
  loops : ∀ clock target, ∃ ticks,
    Advances (tickPeriod ticksPerSecond) target clock ticks (max clock target) ∧
      (clock :: ticks).Pairwise (· < ·) ∧ ∀ tick ∈ ticks, tick ≤ target
  returns : ∃ calls, script.ComesTo timing ticksPerSecond session calls

/-- A replay has no end: no loop ends whose target is still ahead, so that no calls are those of the
whole replay, and there is no summary. -/
structure Script.Endless (script : Script) (timing : Timing) (ticksPerSecond : Nat) : Prop where
  loops : ∀ clock target, clock ≤ target →
    ¬∃ ticks stop, Advances (tickPeriod ticksPerSecond) target clock ticks stop
  calls : ¬∃ calls, script.Makes (tickPeriod ticksPerSecond) calls
  stalled : ∀ arithmetic, script.replay arithmetic timing ticksPerSecond = .error .stalled

section

variable {script : Script} {timing : Timing} {ticksPerSecond : Nat} {session : Session}

theorem Script.ends_of_pos (positive : 0 < tickPeriod ticksPerSecond)
    (joined : Session.join script.roomId script.localSlot timing .occupancy = .ok session) :
    script.Ends timing ticksPerSecond session where
  loops clock target :=
    have run := advances_ticksUntil positive clock target
    ⟨_, run, run.increasing positive⟩
  returns := ⟨_, script.comesTo positive joined⟩

theorem Script.endless_of_zero (stuck : tickPeriod ticksPerSecond = 0)
    (joined : Session.join script.roomId script.localSlot timing .occupancy = .ok session) :
    script.Endless timing ticksPerSecond where
  loops clock target before := by
    rintro ⟨ticks, stop, run⟩
    exact not_advances_zero before (stuck ▸ run)
  calls := by
    rintro ⟨calls, makes⟩
    have positive := ((script.makes_iff _ calls).mp makes).1
    rw [stuck] at positive
    exact absurd positive (Nat.lt_irrefl 0)
  stalled arithmetic := by
    rw [Script.replay_of_joined joined, if_pos stuck]

end

/-- With accepted settings, whatever their rate, a replay ends if it cannot be joined or if the rate
is at most a thousand million ticks in a second, and has no end otherwise. -/
theorem replay_ends_up_to_limit {text : String} {settings : Settings}
    (accepted : Settings.ofText? text = some settings) (script : Script) :
    let rate := settings.game.ticksPerSecond
    let timing := settings.game.timing
    (1 ≤ rate ∧ rate ≤ 0xffffffff) ∧
      (∀ error, Session.join script.roomId script.localSlot timing .occupancy = .error error →
        ∀ arithmetic, script.replay arithmetic timing rate = .error (.session error)) ∧
      ∀ session, Session.join script.roomId script.localSlot timing .occupancy = .ok session →
        (rate ≤ 1000000000 → script.Ends timing rate session) ∧
          (1000000000 < rate → script.Endless timing rate) := by
  intro rate timing
  refine ⟨Settings.ticksPerSecond_of_ofText? accepted,
    fun error refused arithmetic => Script.replay_of_not_joined refused,
    fun session joined => ⟨fun slow => ?_, fun fast => ?_⟩⟩
  · exact Script.ends_of_pos ((tickPeriod_pos_iff rate).mpr slow) joined
  · refine Script.endless_of_zero (Nat.eq_zero_of_not_pos fun positive => ?_) joined
    exact absurd ((tickPeriod_pos_iff rate).mp positive) (Nat.not_le.mpr fast)

theorem replay_ends_after_two_ticks : ∃ settings,
    Settings.ofText? "(game: (tick_rate_hz: 250))" = some settings ∧
      let script : Script := ⟨"room", 1, 8, []⟩
      ∃ session, Session.join "room" 1 settings.game.timing .occupancy = .ok session ∧
        script.Makes (tickPeriod settings.game.ticksPerSecond) [.tick 4000000, .tick 8000000] ∧
        script.replay .wrapping settings.game.timing settings.game.ticksPerSecond =
          .ok (script.summary session [.tick 4000000, .tick 8000000]) := by
  have read : (Settings.ofText? "(game: (tick_rate_hz: 250))").map
      (fun settings => (settings.game.ticksPerSecond, settings.game.timing.lifetime)) =
        some (250, 10000000000) := by decide +kernel
  obtain ⟨settings, accepted, same⟩ := Option.map_eq_some_iff.mp read
  obtain ⟨rate, lifetime⟩ := Prod.mk.inj same
  refine ⟨settings, accepted, ?_⟩
  intro script
  obtain ⟨session, joined⟩ : ∃ session,
      Session.join "room" 1 settings.game.timing .occupancy = .ok session := ⟨_, rfl⟩
  have slow : settings.game.ticksPerSecond ≤ 1000000000 := by
    rw [rate]
    decide
  have ends := ((replay_ends_up_to_limit accepted script).2.2 session joined).1 slow
  obtain ⟨calls, comes⟩ := ends.returns
  have makes := (comes.made calls).mpr rfl
  have made : calls = [.tick 4000000, .tick 8000000] := by
    rw [((script.makes_iff _ calls).mp makes).2, rate]
    decide
  subst made
  have allowed : settings.game.timing.Allows [.tick 4000000, .tick 8000000] := by
    simp [Timing.Allows, Call.time?, lifetime, Instant.limit, Duration.second]
  exact ⟨session, joined, makes, (comes.returned .wrapping).trans (if_pos (comes.allowed allowed))⟩

/-- At a thousand million and one ticks in a second, even a replay of no steps has no end. -/
theorem replay_endless_beyond_limit : ∃ settings,
    Settings.ofText? "(game: (tick_rate_hz: 1000000001))" = some settings ∧
      let script : Script := ⟨"room", 1, 0, []⟩
      (∃ session, Session.join "room" 1 settings.game.timing .occupancy = .ok session) ∧
        (¬∃ calls, script.Makes (tickPeriod settings.game.ticksPerSecond) calls) ∧
        ∀ arithmetic, ¬∃ summary,
          script.replay arithmetic settings.game.timing settings.game.ticksPerSecond =
            .ok summary := by
  have read : (Settings.ofText? "(game: (tick_rate_hz: 1000000001))").map
      (·.game.ticksPerSecond) = some 1000000001 := by decide +kernel
  obtain ⟨settings, accepted, rate⟩ := Option.map_eq_some_iff.mp read
  refine ⟨settings, accepted, ?_⟩
  intro script
  obtain ⟨session, joined⟩ : ∃ session,
      Session.join "room" 1 settings.game.timing .occupancy = .ok session := ⟨_, rfl⟩
  have stuck : tickPeriod settings.game.ticksPerSecond = 0 := by
    rw [rate]
    decide
  have endless : script.Endless settings.game.timing settings.game.ticksPerSecond :=
    Script.endless_of_zero stuck joined
  refine ⟨⟨session, joined⟩, endless.calls, ?_⟩
  rintro arithmetic ⟨summary, replayed⟩
  rw [endless.stalled] at replayed
  cases replayed

end Replay

end TileMatch
