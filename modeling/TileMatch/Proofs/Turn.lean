import TileMatch.Turn

/-!
# One look at the clock

A tick never moves the turn on: it keeps the slot and the deadline of the countdown, notes the
expiry of a local turn at most once, and displays no turn but the current one. The lemmas below say
what a tick and a turn change do to the parts of a `TurnClock`, and which signals they give, so that
proofs about sessions need not look into the countdown again.
-/

namespace TileMatch

namespace Countdown

/-- The deadline of a local turn has passed and no tick has seen it yet. -/
def Expires (countdown : Countdown) (localSlot : Slot) (now : Instant) : Prop :=
  countdown.deadline ≤ now ∧ countdown.slot = localSlot ∧ countdown.expiredAt = none

instance (countdown : Countdown) (localSlot : Slot) (now : Instant) :
    Decidable (countdown.Expires localSlot now) :=
  inferInstanceAs (Decidable (_ ∧ _))

variable (countdown : Countdown) (localSlot : Slot) (grace : Duration) (now : Instant)

/-- Noting the seconds left changes nothing but what is displayed. The number is hidden behind the
quantifier, since no later argument depends on it and evaluating it is costly. -/
theorem refresh_spec : ∃ seconds signals,
    countdown.refresh now = ({ countdown with displayed := seconds }, signals) ∧
      .localExpired ∉ signals := by
  refine ⟨_, _, rfl, ?_⟩
  split <;> simp

@[simp]
theorem refresh_slot : (countdown.refresh now).1.slot = countdown.slot := by
  rcases countdown.refresh_spec now with ⟨seconds, signals, refreshed, _⟩
  rw [refreshed]

@[simp]
theorem refresh_deadline : (countdown.refresh now).1.deadline = countdown.deadline := by
  rcases countdown.refresh_spec now with ⟨seconds, signals, refreshed, _⟩
  rw [refreshed]

@[simp]
theorem refresh_expiredAt : (countdown.refresh now).1.expiredAt = countdown.expiredAt := by
  rcases countdown.refresh_spec now with ⟨seconds, signals, refreshed, _⟩
  rw [refreshed]

theorem expires_refresh_iff :
    (countdown.refresh now).1.Expires localSlot now ↔ countdown.Expires localSlot now := by
  simp only [Expires, refresh_slot, refresh_deadline, refresh_expiredAt]

@[simp]
theorem expire_slot : (countdown.expire localSlot now).1.slot = countdown.slot := by
  unfold expire
  split <;> rfl

@[simp]
theorem expire_deadline : (countdown.expire localSlot now).1.deadline = countdown.deadline := by
  unfold expire
  split <;> rfl

theorem expire_expiredAt : (countdown.expire localSlot now).1.expiredAt =
    if countdown.Expires localSlot now then some now else countdown.expiredAt := by
  unfold expire
  split
  case isTrue expires => exact (if_pos expires).symm
  case isFalse stays => exact (if_neg stays).symm

@[simp]
theorem overdue_slot : (countdown.overdue grace now).1.slot = countdown.slot := by
  unfold overdue
  repeat' split
  all_goals rfl

@[simp]
theorem overdue_deadline : (countdown.overdue grace now).1.deadline = countdown.deadline := by
  unfold overdue
  repeat' split
  all_goals rfl

@[simp]
theorem overdue_expiredAt : (countdown.overdue grace now).1.expiredAt = countdown.expiredAt := by
  unfold overdue
  repeat' split
  all_goals rfl

@[simp]
theorem tick_slot : (countdown.tick localSlot grace now).1.slot = countdown.slot := by
  simp [tick]

@[simp]
theorem tick_deadline : (countdown.tick localSlot grace now).1.deadline = countdown.deadline := by
  simp [tick]

/-- The expiry is noted with the time of the tick that sees it first. -/
theorem tick_expiredAt : (countdown.tick localSlot grace now).1.expiredAt =
    if countdown.Expires localSlot now then some now else countdown.expiredAt := by
  simp only [tick, overdue_expiredAt, expire_expiredAt, expires_refresh_iff, refresh_expiredAt]

/-- The expiry of a local turn stays unnoted as long as the deadline lies ahead. -/
theorem tick_expiredAt_eq_none_iff {countdown : Countdown} {localSlot : Slot}
    (own : countdown.slot = localSlot) (grace : Duration) (now : Instant) :
    (countdown.tick localSlot grace now).1.expiredAt = none ↔
      countdown.expiredAt = none ∧ now < countdown.deadline := by
  rw [tick_expiredAt]
  split
  case isTrue expires =>
    have passed : ¬now < countdown.deadline := Nat.not_lt.mpr expires.1
    simp [passed]
  case isFalse stays =>
    refine ⟨fun unnoted => ⟨unnoted, Nat.lt_of_not_le ?_⟩, And.left⟩
    exact fun passed => stays ⟨passed, own, unnoted⟩

theorem localExpired_notMem_refresh : .localExpired ∉ (countdown.refresh now).2 := by
  rcases countdown.refresh_spec now with ⟨seconds, signals, refreshed, shown⟩
  rw [refreshed]
  exact shown

theorem localExpired_mem_expire_iff :
    .localExpired ∈ (countdown.expire localSlot now).2 ↔ countdown.Expires localSlot now := by
  unfold expire
  split
  case isTrue expires => exact iff_of_true (List.mem_singleton_self _) expires
  case isFalse stays => exact iff_of_false List.not_mem_nil stays

theorem localExpired_notMem_overdue : .localExpired ∉ (countdown.overdue grace now).2 := by
  unfold overdue
  repeat' split
  all_goals simp

theorem localExpired_mem_tick_iff :
    .localExpired ∈ (countdown.tick localSlot grace now).2 ↔ countdown.Expires localSlot now := by
  simp only [tick, List.mem_append, localExpired_notMem_refresh, localExpired_mem_expire_iff,
    localExpired_notMem_overdue, expires_refresh_iff, false_or, or_false]

theorem count_localExpired_tick_le :
    (countdown.tick localSlot grace now).2.count .localExpired ≤ 1 := by
  have shown := List.count_eq_zero.mpr (localExpired_notMem_refresh countdown now)
  have reported (later : Countdown) :=
    List.count_eq_zero.mpr (localExpired_notMem_overdue later grace now)
  have expired (later : Countdown) :
      (later.expire localSlot now).2.count .localExpired ≤ 1 := by
    unfold expire
    split <;> simp
  simp only [tick, List.count_append, shown, reported, Nat.zero_add, Nat.add_zero]
  exact expired _

/-! ## What is displayed -/

theorem slot_of_display_mem_refresh {slot : Slot} {seconds : Nat}
    (displayed : .display slot seconds ∈ (countdown.refresh now).2) : slot = countdown.slot := by
  simp only [refresh] at displayed
  split at displayed
  case isTrue => exact absurd displayed List.not_mem_nil
  case isFalse =>
    cases List.mem_singleton.mp displayed
    rfl

theorem display_notMem_expire (slot : Slot) (seconds : Nat) :
    .display slot seconds ∉ (countdown.expire localSlot now).2 := by
  unfold expire
  split <;> simp

theorem display_notMem_overdue (slot : Slot) (seconds : Nat) :
    .display slot seconds ∉ (countdown.overdue grace now).2 := by
  unfold overdue
  repeat' split
  all_goals simp

theorem slot_of_display_mem_tick {slot : Slot} {seconds : Nat}
    (displayed : .display slot seconds ∈ (countdown.tick localSlot grace now).2) :
    slot = countdown.slot := by
  simp only [tick, List.mem_append, display_notMem_expire, display_notMem_overdue, or_false]
    at displayed
  exact countdown.slot_of_display_mem_refresh now displayed

end Countdown

namespace TurnClock

variable (clock : TurnClock) (now : Instant)

theorem localTurnOpen_iff : clock.localTurnOpen now = true ↔ ∃ countdown,
    clock.phase = .active (some countdown) ∧ countdown.slot = clock.localSlot ∧
      now < countdown.deadline := by
  simp only [localTurnOpen, isLocalTurn, current?, deadline?, countdown?]
  cases clock.phase with
  | waiting => simp
  | ended => simp
  | active countdown => cases countdown <;> simp

theorem deadline?_of_active {clock : TurnClock} {countdown : Countdown}
    (active : clock.phase = .active (some countdown)) :
    clock.deadline? = some countdown.deadline := by
  simp [deadline?, countdown?, active]

theorem tick_of_active {clock : TurnClock} {countdown : Countdown}
    (active : clock.phase = .active (some countdown)) (now : Instant) :
    clock.tick now =
      ({ clock with phase := .active (some (countdown.tick clock.localSlot clock.grace now).1) },
        (countdown.tick clock.localSlot clock.grace now).2) := by
  simp [tick, active]

theorem tick_of_ended {clock : TurnClock} {winner : Option Slot}
    (ended : clock.phase = .ended winner) (now : Instant) : clock.tick now = (clock, []) := by
  simp [tick, ended]

@[simp]
theorem tick_localSlot : (clock.tick now).1.localSlot = clock.localSlot := by
  unfold tick
  split <;> rfl

theorem tick_phase_eq_active {clock : TurnClock} {now : Instant} {countdown : Countdown}
    (active : (clock.tick now).1.phase = .active (some countdown)) :
    ∃ earlier, clock.phase = .active (some earlier) ∧
      countdown = (earlier.tick clock.localSlot clock.grace now).1 := by
  unfold tick at active
  split at active
  case h_1 earlier earlierActive =>
    cases active
    exact ⟨earlier, earlierActive, rfl⟩
  case h_2 inactive => exact absurd active (inactive countdown)

theorem localExpired_mem_tick_iff :
    .localExpired ∈ (clock.tick now).2 ↔
      ∃ countdown, clock.phase = .active (some countdown) ∧
        countdown.Expires clock.localSlot now := by
  unfold tick
  split
  case h_1 countdown active =>
    simp only [Countdown.localExpired_mem_tick_iff, active, Phase.active.injEq, Option.some.injEq,
      exists_eq_left']
  case h_2 inactive =>
    refine iff_of_false List.not_mem_nil ?_
    rintro ⟨countdown, active, _⟩
    exact inactive countdown active

theorem count_localExpired_tick_le : (clock.tick now).2.count .localExpired ≤ 1 := by
  unfold tick
  split
  case h_1 countdown _ => exact countdown.count_localExpired_tick_le _ _ _
  case h_2 => exact Nat.zero_le _

@[simp]
theorem change_localSlot (change : Change) :
    (clock.change change now).1.localSlot = clock.localSlot := by
  unfold TurnClock.change
  split <;> rfl

theorem change_of_ended {clock : TurnClock} {winner : Option Slot}
    (ended : clock.phase = .ended winner) (change : Change) (now : Instant) :
    clock.change change now = (clock, []) := by
  simp [TurnClock.change, ended]

theorem change_fst_of_running {clock : TurnClock} (running : ∀ winner, clock.phase ≠ .ended winner)
    (change : Change) (now : Instant) : (clock.change change now).1 =
      { clock with
        phase := .active (some (change.countdown now))
        number := change.number
        duration := min change.duration longestTurn } := by
  unfold TurnClock.change
  split
  case h_1 winner ended => exact absurd ended (running winner)
  case h_2 => rfl

theorem change_phase {clock : TurnClock} (running : ∀ winner, clock.phase ≠ .ended winner)
    (change : Change) (now : Instant) :
    (clock.change change now).1.phase = .active (some (change.countdown now)) := by
  rw [change_fst_of_running running]

theorem change_phase_ne_waiting (clock : TurnClock) (change : Change) (now : Instant) :
    (clock.change change now).1.phase ≠ .waiting := by
  unfold TurnClock.change
  split
  case h_1 winner ended => simp [ended]
  case h_2 => simp

/-- A turn that is announced again begins again, with the same deadline. -/
theorem change_change (clock : TurnClock) (change : Change) (now : Instant) :
    ((clock.change change now).1.change change now).1 = (clock.change change now).1 := by
  by_cases running : ∀ winner, clock.phase ≠ .ended winner
  · rw [change_fst_of_running running, change_fst_of_running (by simp)]
  · rcases Classical.not_forall.mp running with ⟨winner, ended⟩
    have ignored := change_of_ended (Classical.not_not.mp ended) change now
    rw [ignored, ignored]

/-! ## The current turn -/

@[simp]
theorem tick_current? : (clock.tick now).1.current? = clock.current? := by
  unfold tick
  split
  case h_1 countdown active => simp [current?, countdown?, active]
  case h_2 => rfl

/-- A look at the clock leaves the local turn open until the same deadline. -/
theorem tick_localTurnOpen (time : Instant) :
    (clock.tick now).1.localTurnOpen time = clock.localTurnOpen time := by
  unfold tick
  split
  case h_1 countdown active =>
    simp [localTurnOpen, isLocalTurn, current?, deadline?, countdown?, active]
  case h_2 => rfl

theorem current?_of_active {clock : TurnClock} {countdown : Countdown}
    (active : clock.phase = .active (some countdown)) : clock.current? = some countdown.slot := by
  simp [current?, countdown?, active]

theorem current?_of_ended {clock : TurnClock} {winner : Option Slot}
    (ended : clock.phase = .ended winner) : clock.current? = none := by
  simp [current?, countdown?, ended]

theorem current?_of_localTurnOpen {clock : TurnClock} {now : Instant}
    (turnOpen : clock.localTurnOpen now = true) : clock.current? = some clock.localSlot := by
  rcases (clock.localTurnOpen_iff now).mp turnOpen with ⟨countdown, active, own, _⟩
  rw [current?_of_active active, own]

/-- A tick displays nothing but the turn that counts down. -/
theorem current?_of_display_mem_tick {clock : TurnClock} {now : Instant} {slot : Slot}
    {seconds : Nat} (displayed : .display slot seconds ∈ (clock.tick now).2) :
    clock.current? = some slot := by
  unfold tick at displayed
  split at displayed
  case h_1 countdown active =>
    rw [current?_of_active active, countdown.slot_of_display_mem_tick _ _ _ displayed]
  case h_2 => exact absurd displayed List.not_mem_nil

end TurnClock

end TileMatch
