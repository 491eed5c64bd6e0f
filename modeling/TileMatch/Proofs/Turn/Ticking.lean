import Mathlib.Order.Bounds.Basic
import Mathlib.Order.Nat
import TileMatch.Proofs.Turn

/-!
# A turn that is only looked at

Between two calls that change the turn a clock is only ticked, at times that the caller chooses.
What it signals then does not depend on its latches (`TurnClock.ticks_closed_form`): a local turn
expires at the first tick that finds its deadline passed, a desync is found at the first tick from
that one on that comes a grace time later, and the seconds are displayed when they differ from those
displayed last. So a clock that is looked at rarely ends up as one that is looked at all the time.

A sequence of ticks is a function from the numbers of the ticks to their times. A finite one is the
beginning of such a sequence, since a tick signals nothing about those that follow it.
-/

namespace TileMatch

/-- The seat and the seconds that a signal displays, if it displays any. -/
def TurnSignal.shown? : TurnSignal → Option (Slot × Nat)
  | display slot seconds => some (slot, seconds)
  | _ => none

/-- What signals display last. -/
def TurnSignal.lastShown? (signals : List TurnSignal) : Option (Slot × Nat) :=
  (signals.filterMap shown?).getLast?

theorem TurnSignal.display_mem_iff {signals : List TurnSignal} {slot : Slot} {seconds : Nat} :
    .display slot seconds ∈ signals ↔ (slot, seconds) ∈ signals.filterMap shown? := by
  rw [List.mem_filterMap]
  constructor
  · intro displayed
    exact ⟨_, displayed, rfl⟩
  · rintro ⟨signal, signal_mem, shown⟩
    cases signal with
    | display => cases shown; exact signal_mem
    | previousTimedOut | localExpired | desync => cases shown

namespace Countdown

/-! ## One tick -/

variable (countdown : Countdown) (localSlot : Slot) (grace : Duration) (now : Instant)

/-- What is left of the turn, in whole seconds. -/
def secondsLeft : Nat := Duration.wholeSeconds (countdown.deadline - now)

/-- The expiry has been noted for the grace time. -/
def IsOverdue : Prop := ∃ expiredAt, countdown.expiredAt = some expiredAt ∧ grace ≤ now - expiredAt

theorem refresh_eq : countdown.refresh now =
    ({ countdown with displayed := countdown.secondsLeft now },
      if countdown.displayed = countdown.secondsLeft now then []
      else [.display countdown.slot (countdown.secondsLeft now)]) := rfl

@[simp]
theorem refresh_desyncReported :
    (countdown.refresh now).1.desyncReported = countdown.desyncReported := by
  rcases countdown.refresh_spec now with ⟨seconds, signals, refreshed, _⟩
  rw [refreshed]

@[simp]
theorem expire_desyncReported :
    (countdown.expire localSlot now).1.desyncReported = countdown.desyncReported := by
  unfold expire
  split <;> rfl

@[simp]
theorem expire_displayed :
    (countdown.expire localSlot now).1.displayed = countdown.displayed := by
  unfold expire
  split <;> rfl

theorem overdue_cases :
    (countdown.desyncReported = false ∧ countdown.IsOverdue grace now ∧
      countdown.overdue grace now =
        ({ countdown with desyncReported := true }, [.desync (now - countdown.deadline)])) ∨
    (¬(countdown.desyncReported = false ∧ countdown.IsOverdue grace now) ∧
      countdown.overdue grace now = (countdown, [])) := by
  unfold overdue IsOverdue
  cases noted : countdown.expiredAt with
  | none => simp
  | some expiredAt =>
      by_cases due : countdown.desyncReported = false ∧ grace ≤ now - expiredAt
      · simp [due]
      · exact .inr ⟨by simpa using due, by simp [due]⟩

@[simp]
theorem overdue_displayed :
    (countdown.overdue grace now).1.displayed = countdown.displayed := by
  rcases countdown.overdue_cases grace now with ⟨_, _, reported⟩ | ⟨_, quiet⟩
  · rw [reported]
  · rw [quiet]

theorem tick_displayed :
    (countdown.tick localSlot grace now).1.displayed = countdown.secondsLeft now := by
  simp only [tick, overdue_displayed, expire_displayed, refresh_eq]

/-- A tick displays the seconds that are left if others have been displayed. -/
theorem filterMap_shown?_tick :
    (countdown.tick localSlot grace now).2.filterMap TurnSignal.shown? =
      if countdown.displayed = countdown.secondsLeft now then []
      else [(countdown.slot, countdown.secondsLeft now)] := by
  have expired (later : Countdown) :
      (later.expire localSlot now).2.filterMap TurnSignal.shown? = [] := by
    unfold expire
    split <;> rfl
  have reported (later : Countdown) :
      (later.overdue grace now).2.filterMap TurnSignal.shown? = [] := by
    rcases later.overdue_cases grace now with ⟨_, _, found⟩ | ⟨_, quiet⟩
    · rw [found]
      rfl
    · rw [quiet]
      rfl
  simp only [tick, List.filterMap_append, expired, reported, List.append_nil, refresh_eq]
  split <;> rfl

theorem desync_mem_overdue_iff {waited : Duration} :
    .desync waited ∈ (countdown.overdue grace now).2 ↔
      waited = now - countdown.deadline ∧ countdown.desyncReported = false ∧
        countdown.IsOverdue grace now := by
  rcases countdown.overdue_cases grace now with ⟨unreported, due, found⟩ | ⟨notDue, quiet⟩
  · simp [found, unreported, due]
  · simp only [quiet, List.not_mem_nil, notDue, and_false]

theorem overdue_desyncReported :
    (countdown.overdue grace now).1.desyncReported = true ↔
      countdown.desyncReported = true ∨ countdown.IsOverdue grace now := by
  rcases countdown.overdue_cases grace now with ⟨unreported, due, found⟩ | ⟨notDue, quiet⟩
  · simp [found, due]
  · rw [quiet]
    cases reported : countdown.desyncReported with
    | true => simp
    | false => simpa [reported] using notDue

/-- A tick finds a desync if none has been reported and the expiry, which may be noted by this very
tick, has been noted for the grace time. -/
theorem desync_mem_tick_iff {waited : Duration} :
    .desync waited ∈ (countdown.tick localSlot grace now).2 ↔
      waited = now - countdown.deadline ∧ countdown.desyncReported = false ∧
        (countdown.tick localSlot grace now).1.IsOverdue grace now := by
  have refreshed : .desync waited ∉ (countdown.refresh now).2 := by
    rw [refresh_eq]
    dsimp only
    split <;> simp
  have expired (later : Countdown) : .desync waited ∉ (later.expire localSlot now).2 := by
    unfold expire
    split <;> simp
  simp only [tick, List.mem_append, refreshed, expired, false_or, desync_mem_overdue_iff,
    expire_deadline, refresh_deadline, expire_desyncReported, refresh_desyncReported, IsOverdue,
    overdue_expiredAt]

theorem tick_desyncReported :
    (countdown.tick localSlot grace now).1.desyncReported = true ↔
      countdown.desyncReported = true ∨
        (countdown.tick localSlot grace now).1.IsOverdue grace now := by
  simp only [tick, overdue_desyncReported, expire_desyncReported, refresh_desyncReported, IsOverdue,
    overdue_expiredAt]

/-! ## All ticks -/

/-- The countdown after the first ticks of a sequence. -/
def after (times : Nat → Instant) : Nat → Countdown
  | 0 => countdown
  | count + 1 => ((after times count).tick localSlot grace (times count)).1

variable {countdown localSlot grace} {times : Nat → Instant}

@[simp]
theorem after_slot (count : Nat) :
    (countdown.after localSlot grace times count).slot = countdown.slot := by
  induction count with
  | zero => rfl
  | succ count hypothesis => exact (tick_slot _ _ _ _).trans hypothesis

@[simp]
theorem after_deadline (count : Nat) :
    (countdown.after localSlot grace times count).deadline = countdown.deadline := by
  induction count with
  | zero => rfl
  | succ count hypothesis => exact (tick_deadline _ _ _ _).trans hypothesis

/-- The expiry of a local turn is noted once a tick has found the deadline passed. -/
theorem after_expiredAt_eq_none_iff (own : countdown.slot = localSlot)
    (unnoted : countdown.expiredAt = none) (count : Nat) :
    (countdown.after localSlot grace times count).expiredAt = none ↔
      ∀ index < count, times index < countdown.deadline := by
  induction count with
  | zero => simp [after, unnoted]
  | succ count hypothesis =>
      have ours : (countdown.after localSlot grace times count).slot = localSlot := by
        simpa using own
      rw [after, tick_expiredAt_eq_none_iff ours, hypothesis, after_deadline]
      exact Nat.forall_lt_succ_right.symm

/-- A local turn expires with the first tick that finds its deadline passed. -/
theorem expires_after_iff (unnoted : countdown.expiredAt = none) (index : Nat) :
    (countdown.after localSlot grace times index).Expires localSlot (times index) ↔
      countdown.slot = localSlot ∧ IsLeast {other | countdown.deadline ≤ times other} index := by
  simp only [Expires, after_deadline, after_slot]
  constructor
  · rintro ⟨passed, own, stillUnnoted⟩
    rw [after_expiredAt_eq_none_iff own unnoted] at stillUnnoted
    refine ⟨own, passed, ?_⟩
    intro other otherPassed
    by_contra before
    exact Nat.not_lt.mpr otherPassed (stillUnnoted other (Nat.lt_of_not_le before))
  · rintro ⟨own, passed, least⟩
    refine ⟨passed, own, (after_expiredAt_eq_none_iff own unnoted index).mpr ?_⟩
    intro other before
    by_contra otherPassed
    exact Nat.not_le.mpr before (least (Nat.le_of_not_lt otherPassed))

/-- What is noted is the time of that tick. -/
theorem after_expiredAt_eq_some_iff (unnoted : countdown.expiredAt = none) {time : Instant}
    (count : Nat) :
    (countdown.after localSlot grace times count).expiredAt = some time ↔
      countdown.slot = localSlot ∧ ∃ first < count,
        IsLeast {other | countdown.deadline ≤ times other} first ∧ times first = time := by
  induction count with
  | zero => simp [after, unnoted]
  | succ count hypothesis =>
      rw [after, tick_expiredAt]
      split
      case isTrue expires =>
        rcases (expires_after_iff unnoted count).mp expires with ⟨own, least⟩
        rw [Option.some.injEq]
        constructor
        · intro same
          exact ⟨own, count, Nat.lt_succ_self count, least, same⟩
        · rintro ⟨_, first, _, otherLeast, same⟩
          rwa [least.unique otherLeast]
      case isFalse stays =>
        rw [hypothesis]
        refine and_congr_right fun own => exists_congr fun first => ?_
        refine and_congr_left fun ⟨least, _⟩ => ⟨Nat.lt_succ_of_lt, fun before => ?_⟩
        rcases Nat.lt_succ_iff_lt_or_eq.mp before with earlier | rfl
        · exact earlier
        · exact absurd ((expires_after_iff unnoted first).mpr ⟨own, least⟩) stays

/-- A tick finds the expiry noted for the grace time if the first tick after the deadline is that
much older, or is this tick and no grace time is given. -/
theorem isOverdue_after_iff (unnoted : countdown.expiredAt = none) (index : Nat) :
    (countdown.after localSlot grace times (index + 1)).IsOverdue grace (times index) ↔
      countdown.slot = localSlot ∧ ∃ first,
        IsLeast {other | countdown.deadline ≤ times other} first ∧ first ≤ index ∧
          grace ≤ times index - times first := by
  simp only [IsOverdue, after_expiredAt_eq_some_iff unnoted, Nat.lt_succ_iff]
  constructor
  · rintro ⟨_, ⟨own, first, before, least, rfl⟩, late⟩
    exact ⟨own, first, least, before, late⟩
  · rintro ⟨own, first, least, before, late⟩
    exact ⟨_, ⟨own, first, before, least, rfl⟩, late⟩

theorem after_desyncReported_iff (unnoted : countdown.expiredAt = none)
    (unreported : countdown.desyncReported = false) (count : Nat) :
    (countdown.after localSlot grace times count).desyncReported = true ↔
      countdown.slot = localSlot ∧ ∃ first,
        IsLeast {other | countdown.deadline ≤ times other} first ∧
          ∃ index < count, first ≤ index ∧ grace ≤ times index - times first := by
  induction count with
  | zero => simp [after, unreported]
  | succ count hypothesis =>
      rw [after, tick_desyncReported, hypothesis, ← after, isOverdue_after_iff unnoted]
      simp only [Nat.lt_succ_iff_lt_or_eq, or_and_right, exists_or, exists_eq_left, and_or_left]

/-- A desync is found by the first tick from the expiry on that comes a grace time after it. -/
theorem desync_mem_after_iff (unnoted : countdown.expiredAt = none)
    (unreported : countdown.desyncReported = false) {waited : Duration} (index : Nat) :
    .desync waited ∈
        ((countdown.after localSlot grace times index).tick localSlot grace (times index)).2 ↔
      waited = times index - countdown.deadline ∧ countdown.slot = localSlot ∧ ∃ first,
        IsLeast {other | countdown.deadline ≤ times other} first ∧
          IsLeast {other | first ≤ other ∧ grace ≤ times other - times first} index := by
  rw [desync_mem_tick_iff, after_deadline, ← after, isOverdue_after_iff unnoted,
    ← Bool.not_eq_true, after_desyncReported_iff unnoted unreported]
  refine and_congr_right fun _ => ?_
  constructor
  · rintro ⟨unreported, own, first, least, from_first, late⟩
    refine ⟨own, first, least, ⟨from_first, late⟩, ?_⟩
    rintro other ⟨otherFrom, otherLate⟩
    by_contra before
    exact unreported ⟨own, first, least, other, Nat.lt_of_not_le before, otherFrom, otherLate⟩
  · rintro ⟨own, first, least, ⟨from_first, late⟩, earliest⟩
    refine ⟨?_, own, first, least, from_first, late⟩
    rintro ⟨_, other, otherLeast, earlier, before, otherFrom, otherLate⟩
    rw [otherLeast.unique least] at otherFrom otherLate
    exact Nat.not_le.mpr before (earliest ⟨otherFrom, otherLate⟩)

theorem after_displayed (count : Nat) :
    (countdown.after localSlot grace times (count + 1)).displayed =
      countdown.secondsLeft (times count) := by
  rw [after, tick_displayed, secondsLeft, secondsLeft, after_deadline]

end Countdown

namespace TurnClock

/-- The clock after the first ticks of a sequence. -/
def afterTicks (clock : TurnClock) (times : Nat → Instant) : Nat → TurnClock
  | 0 => clock
  | count + 1 => ((clock.afterTicks times count).tick (times count)).1

/-- The signals of one tick of a sequence. -/
def signalsAt (clock : TurnClock) (times : Nat → Instant) (index : Nat) : List TurnSignal :=
  ((clock.afterTicks times index).tick (times index)).2

/-- The signals of the first ticks of a sequence, in order. -/
def signalsBefore (clock : TurnClock) (times : Nat → Instant) : Nat → List TurnSignal
  | 0 => []
  | count + 1 => clock.signalsBefore times count ++ clock.signalsAt times count

/-- What a turn change and the first ticks after it display last. -/
def shownAfter? (clock : TurnClock) (change : Change) (now : Instant) (times : Nat → Instant)
    (count : Nat) : Option (Slot × Nat) :=
  TurnSignal.lastShown?
    ((clock.change change now).2 ++ (clock.change change now).1.signalsBefore times count)

variable {clock : TurnClock} {times : Nat → Instant}

theorem afterTicks_of_active {countdown : Countdown}
    (active : clock.phase = .active (some countdown)) (count : Nat) :
    clock.afterTicks times count = { clock with
      phase := .active (some (countdown.after clock.localSlot clock.grace times count)) } := by
  induction count with
  | zero =>
      rcases clock with ⟨localSlot, grace, phase, number, duration⟩
      cases active
      rfl
  | succ count hypothesis =>
      rw [afterTicks, hypothesis, tick_of_active rfl]
      rfl

theorem signalsAt_of_active {countdown : Countdown}
    (active : clock.phase = .active (some countdown)) (index : Nat) :
    clock.signalsAt times index =
      ((countdown.after clock.localSlot clock.grace times index).tick clock.localSlot clock.grace
        (times index)).2 := by
  rw [signalsAt, afterTicks_of_active active, tick_of_active rfl]

@[simp]
theorem change_grace (change : Change) (now : Instant) :
    (clock.change change now).1.grace = clock.grace := by
  unfold TurnClock.change
  split <;> rfl

/-- A tick after a turn change signals what a tick of the countdown does that the change begins. -/
theorem signalsAt_change (running : ∀ winner, clock.phase ≠ .ended winner) (change : Change)
    (now : Instant) (index : Nat) :
    (clock.change change now).1.signalsAt times index =
      (((change.countdown now).after clock.localSlot clock.grace times index).tick
        clock.localSlot clock.grace (times index)).2 := by
  rw [signalsAt_of_active (change_phase running change now), change_localSlot, change_grace]

/-- The turn change displays the seconds that it grants, and what is displayed last from then on is
what the countdown remembers. -/
theorem shownAfter?_eq (running : ∀ winner, clock.phase ≠ .ended winner)
    (change : Change) (now : Instant) (count : Nat) :
    clock.shownAfter? change now times count = some (change.slot,
      ((change.countdown now).after clock.localSlot clock.grace times count).displayed) := by
  unfold shownAfter? TurnSignal.lastShown?
  induction count with
  | zero =>
      rw [signalsBefore, List.append_nil]
      unfold TurnClock.change
      split
      case h_1 winner ended => exact absurd ended (running winner)
      case h_2 =>
        dsimp only
        split <;> rfl
  | succ count hypothesis =>
      rw [signalsBefore, ← List.append_assoc, List.filterMap_append, List.getLast?_append,
        hypothesis, signalsAt_change running, Countdown.filterMap_shown?_tick, Countdown.after,
        Countdown.tick_displayed]
      split
      case isTrue same =>
        rw [← same]
        rfl
      case isFalse => exact congrArg (fun slot => some (slot, _)) (Countdown.after_slot count)

/-- A local turn expires with the first tick that finds its deadline passed. -/
theorem localExpired_mem_signalsAt_change_iff (running : ∀ winner, clock.phase ≠ .ended winner)
    (change : Change) (now : Instant) (index : Nat) :
    .localExpired ∈ (clock.change change now).1.signalsAt times index ↔
      change.slot = clock.localSlot ∧
        IsLeast {other | change.deadline now ≤ times other} index := by
  rw [signalsAt_change running, Countdown.localExpired_mem_tick_iff,
    Countdown.expires_after_iff rfl]
  rfl

/-- A desync is found by the first tick from the expiry on that comes the grace time after it. -/
theorem desync_mem_signalsAt_change_iff (running : ∀ winner, clock.phase ≠ .ended winner)
    (change : Change) (now : Instant) (index : Nat) (waited : Duration) :
    .desync waited ∈ (clock.change change now).1.signalsAt times index ↔
      waited = times index - (change.deadline now) ∧
        change.slot = clock.localSlot ∧ ∃ first,
          IsLeast {other | change.deadline now ≤ times other} first ∧
            IsLeast {other | first ≤ other ∧ clock.grace ≤ times other - times first} index := by
  rw [signalsAt_change running, Countdown.desync_mem_after_iff rfl rfl]
  rfl

/-- The seconds left are displayed when they differ from those that the countdown remembers. -/
theorem display_mem_signalsAt_change_iff (running : ∀ winner, clock.phase ≠ .ended winner)
    (change : Change) (now : Instant) (index : Nat) (slot : Slot) (seconds : Nat) :
    .display slot seconds ∈ (clock.change change now).1.signalsAt times index ↔
      slot = change.slot ∧
        seconds = Duration.wholeSeconds (change.deadline now - times index) ∧
        seconds ≠
          ((change.countdown now).after clock.localSlot clock.grace times index).displayed := by
  have left : ((change.countdown now).after clock.localSlot clock.grace times
      index).secondsLeft (times index) =
        Duration.wholeSeconds (change.deadline now - times index) := by
    rw [Countdown.secondsLeft, Countdown.after_deadline]
    rfl
  rw [signalsAt_change running, TurnSignal.display_mem_iff, Countdown.filterMap_shown?_tick, left,
    Countdown.after_slot]
  split
  case isTrue same => simp [same]
  case isFalse other =>
    rw [List.mem_singleton, Prod.mk.injEq]
    refine and_congr_right fun _ => ⟨fun shown => ⟨shown, ?_⟩, And.left⟩
    rw [shown]
    exact Ne.symm other

/-- By a tick that is no earlier than those before it a local turn has expired if that tick finds
its deadline passed. -/
theorem exists_localExpired_iff (running : ∀ winner, clock.phase ≠ .ended winner)
    (change : Change) (now : Instant) {count : Nat}
    (latest : ∀ index ≤ count, times index ≤ times count) :
    (∃ index ≤ count, .localExpired ∈ (clock.change change now).1.signalsAt times index) ↔
      change.slot = clock.localSlot ∧ change.deadline now ≤ times count := by
  simp only [localExpired_mem_signalsAt_change_iff running]
  constructor
  · rintro ⟨index, before, own, passed, _⟩
    exact ⟨own, Nat.le_trans passed (latest index before)⟩
  · rintro ⟨own, passed⟩
    have least := Nat.isLeast_find
      (p := fun other => change.deadline now ≤ times other) ⟨count, passed⟩
    exact ⟨_, least.2 passed, own, least⟩

/-- The ticks that follow an accepted turn change, at any times: a local turn expires with the first
that finds its deadline passed; a desync is found by the first from that one on that comes the grace
time after it, so that the grace time has passed since the deadline as well; and the seconds left
are displayed when they differ from those displayed last. After a tick that is no earlier than those
before it, as none is when the times do not decrease, whether the turn has expired and what is
displayed depend on that tick alone. The deadline is so long after the change as it grants, unless
the clock does not go that far. -/
theorem ticks_closed_form (running : ∀ winner, clock.phase ≠ .ended winner) (change : Change)
    (now : Instant) (times : Nat → Instant) :
    let begun := (clock.change change now).1
    let deadline := change.deadline now
    begun.deadline? = some deadline ∧
    (now + min change.remaining longestTurn < Instant.limit →
      deadline = now + min change.remaining longestTurn) ∧
    (∀ index,
      (.localExpired ∈ begun.signalsAt times index ↔
        change.slot = clock.localSlot ∧ IsLeast {other | deadline ≤ times other} index) ∧
      (∀ waited, .desync waited ∈ begun.signalsAt times index ↔
        waited = times index - deadline ∧ change.slot = clock.localSlot ∧ ∃ first,
          IsLeast {other | deadline ≤ times other} first ∧
            IsLeast {other | first ≤ other ∧ clock.grace ≤ times other - times first} index) ∧
      (∀ waited, .desync waited ∈ begun.signalsAt times index → clock.grace ≤ waited) ∧
      ∃ last, clock.shownAfter? change now times index = some (change.slot, last) ∧
        ∀ slot seconds, .display slot seconds ∈ begun.signalsAt times index ↔
          slot = change.slot ∧ seconds = Duration.wholeSeconds (deadline - times index) ∧
            seconds ≠ last) ∧
    (∀ count, (∀ index ≤ count, times index ≤ times count) →
      ((∃ index ≤ count, .localExpired ∈ begun.signalsAt times index) ↔
        change.slot = clock.localSlot ∧ deadline ≤ times count) ∧
      clock.shownAfter? change now times (count + 1) =
        some (change.slot, Duration.wholeSeconds (deadline - times count))) := by
  intro begun deadline
  refine ⟨deadline?_of_active (change_phase running change now), change.deadline_of_lt, ?_, ?_⟩
  · intro index
    refine ⟨localExpired_mem_signalsAt_change_iff running change now index,
      desync_mem_signalsAt_change_iff running change now index, ?_, _,
      shownAfter?_eq running change now index,
      display_mem_signalsAt_change_iff running change now index⟩
    intro waited found
    rcases (desync_mem_signalsAt_change_iff running change now index waited).mp found with
      ⟨rfl, _, first, ⟨passed, _⟩, ⟨_, late⟩, _⟩
    exact Nat.le_trans late (Nat.sub_le_sub_left passed _)
  · intro count latest
    refine ⟨exists_localExpired_iff running change now latest, ?_⟩
    rw [shownAfter?_eq running, Countdown.after_displayed]
    rfl

/-- A turn that is granted two seconds. -/
def shortTurn (slot : Slot) : Change := ⟨slot, .ofSeconds 30, .ofSeconds 2, false, 1⟩

/-- Ticks after one second, two seconds and so on. -/
def everySecond (index : Nat) : Instant := Duration.ofSeconds (index + 1)

theorem shortTurn_overdue :
    let begun := ((start ⟨0⟩ (.ofSeconds 5)).change (shortTurn ⟨0⟩) 0).1
    .localExpired ∈ begun.signalsAt everySecond 1 ∧
    .desync (.ofSeconds 5) ∈ begun.signalsAt everySecond 6 ∧
    (∃ index ≤ 6, .localExpired ∈ begun.signalsAt everySecond index) ∧
    (start ⟨0⟩ (.ofSeconds 5)).shownAfter? (shortTurn ⟨0⟩) 0 everySecond 7 = some (⟨0⟩, 0) := by
  have running : ∀ winner, (start ⟨0⟩ (.ofSeconds 5)).phase ≠ .ended winner := fun _ => nofun
  have law := ticks_closed_form running (shortTurn ⟨0⟩) 0 everySecond
  have deadline : (shortTurn ⟨0⟩).deadline 0 = Duration.ofSeconds 2 := by decide
  rw [deadline] at law
  have second_pos : 0 < Duration.second := by decide
  have least : IsLeast {other | Duration.ofSeconds 2 ≤ everySecond other} 1 := by
    refine ⟨Nat.le_refl _, fun other passed => ?_⟩
    exact Nat.le_of_succ_le_succ (Nat.le_of_mul_le_mul_right passed second_pos)
  have late : IsLeast
      {other | 1 ≤ other ∧ Duration.ofSeconds 5 ≤ everySecond other - everySecond 1} 6 := by
    refine ⟨⟨by decide, by decide⟩, fun other ⟨_, late⟩ => ?_⟩
    rw [everySecond, everySecond, Duration.ofSeconds, Duration.ofSeconds, Duration.ofSeconds,
      ← Nat.sub_mul] at late
    have seconds := Nat.le_of_mul_le_mul_right late second_pos
    omega
  have last := law.2.2.2 6 fun index before =>
    Nat.mul_le_mul_right Duration.second (Nat.succ_le_succ before)
  refine ⟨(law.2.2.1 1).1.mpr ⟨rfl, least⟩,
    ((law.2.2.1 6).2.1 _).mpr ⟨by decide, rfl, 1, least, late⟩, last.1.mpr ⟨rfl, by decide⟩,
    last.2.trans ?_⟩
  decide +kernel

end TurnClock

end TileMatch
