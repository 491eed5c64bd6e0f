import TileMatch.Proofs.Session.Step
import TileMatch.Proofs.Turn.Timing

/-!
# The time that a turn is granted

The server says in seconds how long a turn lasts and what is left of it. Both are rounded to spans
and cut at the longest turn, which is meant for numbers of any size. But a number of `2 ^ 64`
seconds or more has no span and is treated like one below zero, so that a turn that should last as
long as turns can is over at once. `Session.timing_cut_below_limit` says that this is where the cut
ends, and that below it the longest time is granted for every number beyond it.
-/

namespace TileMatch

namespace TurnClock

/-- The time that a turn is granted for a number of seconds. -/
def granted (seconds : Binary32) : Duration := min (Duration.ofSingle seconds) longestTurn

/-- A span is the one nearest to a number of seconds, cut at the longest turn. -/
def IsCut (seconds : Binary32) (span : Duration) : Prop :=
  ∃ nearest, Rounds (seconds.value * Duration.second) nearest ∧ span = min nearest longestTurn

variable {seconds more : Binary32}

theorem granted_isCut (finite : seconds.isFinite = true) (nonneg : 0 ≤ seconds.value)
    (below : seconds.value < 2 ^ 64) : IsCut seconds (granted seconds) := by
  have notBelowZero := (Binary32.isBelowZero_eq_false_iff finite).mpr nonneg
  have rounds := Duration.nanoseconds_rounds finite notBelowZero
  have found := (Duration.ofSingle?_eq_some_iff finite notBelowZero).mpr ⟨below, rounds⟩
  refine ⟨_, rounds, ?_⟩
  rw [granted, Duration.ofSingle, found, Option.getD_some]

/-- What has no span counts as nothing. -/
theorem granted_eq_zero (finite : seconds.isFinite = true) (nonneg : 0 ≤ seconds.value)
    (beyond : 2 ^ 64 ≤ seconds.value) : granted seconds = 0 := by
  have notBelowZero := (Binary32.isBelowZero_eq_false_iff finite).mpr nonneg
  have absent : Duration.ofSingle? seconds = none := by
    rw [Option.eq_none_iff_forall_ne_some]
    intro span found
    have below := ((Duration.ofSingle?_eq_some_iff finite notBelowZero).mp found).1
    linarith
  rw [granted, Duration.ofSingle, absent, Option.getD_none, Nat.zero_min]

namespace IsCut

variable {span longer : Duration}

theorem mono (first : IsCut seconds span) (second : IsCut more longer)
    (less : seconds.value ≤ more.value) : span ≤ longer := by
  rcases first with ⟨nearest, rounds, rfl⟩
  rcases second with ⟨nearestMore, roundsMore, rfl⟩
  have order : seconds.value * Duration.second ≤ more.value * Duration.second := by gcongr
  exact min_le_min_right _ (rounds.mono order roundsMore)

theorem eq_longestTurn (cut : IsCut seconds span) (long : 3600 ≤ seconds.value) :
    span = longestTurn := by
  rcases cut with ⟨nearest, rounds, rfl⟩
  have order : ((longestTurn : ℕ) : ℚ) ≤ seconds.value * Duration.second := by
    have size : ((longestTurn : ℕ) : ℚ) = 3600 * Duration.second := by
      exact_mod_cast rfl
    rw [size]
    gcongr
  exact Nat.min_eq_right ((Rounds.natCast _).mono order rounds)

end IsCut

/-- The cut is right below `2 ^ 64` seconds and nowhere else. -/
theorem granted_isCut_iff (finite : seconds.isFinite = true) (nonneg : 0 ≤ seconds.value) :
    IsCut seconds (granted seconds) ↔ seconds.value < 2 ^ 64 := by
  refine ⟨fun cut => ?_, granted_isCut finite nonneg⟩
  by_contra notBelow
  have beyond : 2 ^ 64 ≤ seconds.value := le_of_not_gt notBelow
  have longest := cut.eq_longestTurn (le_trans (by norm_num) beyond)
  rw [granted_eq_zero finite nonneg beyond] at longest
  exact absurd longest (by decide)

end TurnClock

namespace Session

open TurnClock

variable {session : Session} {number : Int} {slot : Slot}

theorem turn_of_turnChanged (isOpen : session.closed = false)
    (running : ∀ winner, session.turn.phase ≠ .ended winner)
    (seat : Slot.ofServer number = .ok slot) (turnTime : Option Binary32) (remaining : Binary32)
    (previousTimedOut : Bool) (turnNumber : Nat) (now : Instant) :
    let turn := (session.step (.handle
      (.turnChanged number turnTime remaining previousTimedOut turnNumber) now)).session.turn
    (now + granted remaining < Instant.limit →
      turn.deadline? = some (now + granted remaining)) ∧
    (Instant.limit ≤ now + granted remaining → turn.deadline? = some now) ∧
    turn.duration = (turnTime.map granted).getD (min session.defaultTurn longestTurn) := by
  simp only [step_turnChanged isOpen seat, turnChanged_fst, change_fst_of_running running]
  refine ⟨fun lasts => ?_, fun ends => ?_, ?_⟩
  · exact (deadline?_of_active rfl).trans (congrArg some (Change.deadline_of_lt _ lasts))
  · exact (deadline?_of_active rfl).trans (congrArg some (Change.deadline_of_le _ ends))
  · cases turnTime <;> rfl

/-- A turn change in an open session grants the turn the time for what is left of it, or none where
the clock does not go that far, and notes the time for how long turns last. The time for a number of
seconds is the nearest span, cut at the longest turn, if the number is below `2 ^ 64`; then a number
from 3600 on is granted the longest turn, and no number less than a smaller one. From `2 ^ 64` on
nothing is granted. -/
theorem timing_cut_below_limit (running : ∀ winner, session.turn.phase ≠ .ended winner)
    (seat : Slot.ofServer number = .ok slot) (turnTime : Option Binary32) (remaining : Binary32)
    (previousTimedOut : Bool) (turnNumber : Nat) (now : Instant) :
    let turn := (session.step (.handle
      (.turnChanged number turnTime remaining previousTimedOut turnNumber) now)).session.turn
    (session.closed = true → turn = session.turn) ∧
    (session.closed = false →
      (now + granted remaining < Instant.limit →
        turn.deadline? = some (now + granted remaining)) ∧
      (Instant.limit ≤ now + granted remaining → turn.deadline? = some now) ∧
      turn.duration = (turnTime.map granted).getD (min session.defaultTurn longestTurn)) ∧
    ∀ seconds, seconds.isFinite = true → 0 ≤ seconds.value →
      (IsCut seconds (granted seconds) ↔ seconds.value < 2 ^ 64) ∧
      (3600 ≤ seconds.value → seconds.value < 2 ^ 64 → granted seconds = longestTurn) ∧
      (2 ^ 64 ≤ seconds.value → granted seconds = 0) ∧
      ∀ more, more.isFinite = true → seconds.value ≤ more.value → more.value < 2 ^ 64 →
        granted seconds ≤ granted more := by
  refine ⟨fun isClosed => ?_, fun isOpen => ?_, fun seconds finite nonneg => ?_⟩
  · rw [(step_of_closed isClosed _).1]
  · exact turn_of_turnChanged isOpen running seat _ _ _ _ _
  · refine ⟨granted_isCut_iff finite nonneg, ?_, granted_eq_zero finite nonneg, ?_⟩
    · exact fun long below => (granted_isCut finite nonneg below).eq_longestTurn long
    · intro more moreFinite less below
      exact (granted_isCut finite nonneg (less.trans_lt below)).mono
        (granted_isCut moreFinite (nonneg.trans less) below) less

theorem timing_cut_of_greatest : ∃ session, join "room" 1 .standard (.constant true) = .ok session ∧
    let seconds := Binary32.ofBits 0x5f7fffff
    let turn :=
      (session.step (.handle (.turnChanged 1 (some seconds) seconds false 1) 5)).session.turn
    seconds.isFinite = true ∧ seconds.value = 0xffffff * 2 ^ 40 ∧
      turn.deadline? = some (5 + longestTurn) ∧ turn.duration = longestTurn := by
  obtain ⟨session, joined⟩ : ∃ session, join "room" 1 .standard (.constant true) = .ok session :=
    ⟨_, rfl⟩
  rcases of_join joined with ⟨slot, seat, start⟩
  have running : ∀ winner, session.turn.phase ≠ .ended winner := by
    rw [start]
    exact fun _ => nofun
  refine ⟨session, joined, ?_⟩
  intro seconds turn
  have finite : seconds.isFinite = true := by decide
  have value : seconds.value = 0xffffff * 2 ^ 40 := by
    have units : seconds.units = (0xffffff * 2 ^ 40) * Binary32.one := by decide +kernel
    rw [Binary32.value_of_units finite (by decide) units]
    norm_num
  have law := timing_cut_below_limit running seat (some seconds) seconds false 1 5
  have cut := law.2.2 seconds finite (by norm_num [value])
  have longest : granted seconds = longestTurn :=
    cut.2.1 (by norm_num [value]) (by norm_num [value])
  have armed := law.2.1 (by rw [start])
  rw [Option.map_some, Option.getD_some, longest] at armed
  exact ⟨finite, value, armed.1 (by decide), armed.2.2⟩

/-- A turn that is said to last for `2 ^ 64` seconds is over at once. -/
theorem oversized_turn_over_at_once :
    ∃ session, join "room" 1 .standard (.constant true) = .ok session ∧
      let seconds := Binary32.ofBits 0x5f800000
      let turn := (session.step (.handle (.turnChanged 1 none seconds false 1) 0)).session.turn
      seconds.isFinite = true ∧ seconds.value = 2 ^ 64 ∧ turn.deadline? = some 0 ∧
        ¬∃ span, IsCut seconds span ∧ turn.deadline? = some (0 + span) := by
  have joined : join "room" 1 .standard (.constant true) = .ok _ := rfl
  refine ⟨_, joined, ?_⟩
  intro seconds turn
  have finite : seconds.isFinite = true := by decide
  have value : seconds.value = 2 ^ 64 := by
    rw [Binary32.value_of_units finite (by decide) Binary32.unitsOf_tooLong]
    norm_num
  have atOnce : turn.deadline? = some 0 := by decide +kernel
  refine ⟨finite, value, atOnce, ?_⟩
  rintro ⟨span, cut, armed⟩
  -- The cut would be at the longest turn.
  rw [atOnce, cut.eq_longestTurn (by norm_num [value])] at armed
  exact absurd armed (by decide)

end Session

end TileMatch
