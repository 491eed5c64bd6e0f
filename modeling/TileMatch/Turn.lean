import TileMatch.Slot
import TileMatch.Turn.Timing

/-!
# Turns and the countdown

A `TurnClock` knows whether a game runs, whose turn it is and when that turn ends. Only the server
moves the turn on. When the deadline of a local turn has passed, the clock says so once, and when
no turn change follows within the grace time it reports a desync once. The countdown is computed
from the deadline, so skipped ticks do no harm.

Whose turn it is and its deadline exist together or not at all, and only while a game runs, so the
`Phase` holds both.
-/

namespace TileMatch

/-- A turn that counts down. -/
structure Countdown where
  slot : Slot
  deadline : Instant
  /-- When a tick found the deadline of a local turn passed. -/
  expiredAt : Option Instant
  desyncReported : Bool
  /-- The whole seconds last displayed. -/
  displayed : Nat
  deriving DecidableEq, Repr

/-- The stages of a match. A running game has no turn until the first turn change. -/
inductive Phase where
  | waiting
  | active (countdown : Option Countdown)
  | ended (winner : Option Slot)
  deriving DecidableEq, Repr

/-- What the clock wants to be acted on. -/
inductive TurnSignal where
  | display (slot : Slot) (remainingSeconds : Nat)
  | previousTimedOut (previous : Option Slot)
  | localExpired
  | desync (waited : Duration)
  deriving DecidableEq, Repr

/-- The state of the turns as the local seat sees it. -/
structure TurnClock where
  localSlot : Slot
  grace : Duration
  phase : Phase
  number : Nat
  duration : Duration
  deriving DecidableEq, Repr

namespace TurnClock

/-- The grace time unless configured otherwise. -/
def defaultGrace : Duration := .ofSeconds 5

/-- The length of a turn unless configured or told otherwise. -/
def defaultDuration : Duration := .ofSeconds 30

/-- The longest turn; what the server says beyond it is cut. -/
def longestTurn : Duration := .ofSeconds 3600

/-- A clock that waits for a game. -/
def start (localSlot : Slot) (grace : Duration) : TurnClock :=
  ⟨localSlot, grace, .waiting, 0, defaultDuration⟩

/-- The turn that counts down, if any. -/
def countdown? (clock : TurnClock) : Option Countdown :=
  match clock.phase with
  | .active countdown => countdown
  | _ => none

/-- Whether a game runs. -/
def isActive (clock : TurnClock) : Bool :=
  match clock.phase with
  | .active _ => true
  | _ => false

/-- The seat whose turn it is, if any. -/
def current? (clock : TurnClock) : Option Slot := clock.countdown?.map Countdown.slot

/-- The deadline of the turn, if any. -/
def deadline? (clock : TurnClock) : Option Instant := clock.countdown?.map Countdown.deadline

/-- The time left on the turn, zero once the deadline has passed. -/
def remaining (clock : TurnClock) (now : Instant) : Duration :=
  match clock.deadline? with
  | some deadline => deadline - now
  | none => 0

/-- Whether a game runs and it is the local player's turn. -/
def isLocalTurn (clock : TurnClock) : Bool := clock.current? == some clock.localSlot

/-- Whether it is the local player's turn and its deadline lies ahead. -/
def localTurnOpen (clock : TurnClock) (now : Instant) : Bool :=
  clock.isLocalTurn && clock.deadline?.any (now < ·)

/-- A game starts. -/
def startGame (clock : TurnClock) : TurnClock := { clock with phase := .active none, number := 0 }

/-- The game ends, and with it all turns. -/
def endGame (clock : TurnClock) (winner : Option Slot) : TurnClock :=
  { clock with phase := .ended winner }

/-- Back to waiting for a game. -/
def reset (clock : TurnClock) : TurnClock := { clock with phase := .waiting, number := 0 }

/-- What the server says about a turn that begins. -/
structure Change where
  slot : Slot
  duration : Duration
  remaining : Duration
  previousTimedOut : Bool
  number : Nat
  deriving DecidableEq, Repr

/-- How long the turn of a change still lasts. -/
def Change.timeLeft (change : Change) : Duration := min change.remaining longestTurn

/-- The deadline of the turn of a change. Where the clock does not go that far, it is now. -/
def Change.deadline (change : Change) (now : Instant) : Instant :=
  (Instant.after? now change.timeLeft).getD now

theorem Change.deadline_of_lt (change : Change) {now : Instant}
    (lasts : now + change.timeLeft < Instant.limit) :
    change.deadline now = now + change.timeLeft := by
  rw [deadline, Instant.after?_eq_some_iff.mpr ⟨lasts, rfl⟩, Option.getD_some]

theorem Change.deadline_of_le (change : Change) {now : Instant}
    (ends : Instant.limit ≤ now + change.timeLeft) : change.deadline now = now := by
  rw [deadline, Instant.after?_eq_none_iff.mpr ends, Option.getD_none]

/-- The turn that a change begins. -/
def Change.countdown (change : Change) (now : Instant) : Countdown :=
  ⟨change.slot, change.deadline now, none, false, Duration.wholeSeconds change.timeLeft⟩

/-- Applies a turn change and starts its countdown. After the end of a game it is ignored, and
before the start of one it starts the game. -/
def change (clock : TurnClock) (change : Change) (now : Instant) : TurnClock × List TurnSignal :=
  match clock.phase with
  | .ended _ => (clock, [])
  | _ =>
    let countdown := change.countdown now
    ({ clock with
        phase := .active (some countdown)
        number := change.number
        duration := min change.duration longestTurn },
      (if change.previousTimedOut then [.previousTimedOut clock.current?] else []) ++
        [.display countdown.slot countdown.displayed])

end TurnClock

namespace Countdown

/-- Notes the whole seconds left, and displays them when they differ from those displayed. -/
def refresh (countdown : Countdown) (now : Instant) : Countdown × List TurnSignal :=
  let seconds := Duration.wholeSeconds (countdown.deadline - now)
  ({ countdown with displayed := seconds },
    if countdown.displayed = seconds then [] else [.display countdown.slot seconds])

/-- Notes that the deadline of a local turn has passed, the first time that this is seen. -/
def expire (countdown : Countdown) (localSlot : Slot) (now : Instant) :
    Countdown × List TurnSignal :=
  if countdown.deadline ≤ now ∧ countdown.slot = localSlot ∧ countdown.expiredAt = none then
    ({ countdown with expiredAt := some now }, [.localExpired])
  else (countdown, [])

/-- Reports a desync once the grace time has passed since the local turn was seen to expire. -/
def overdue (countdown : Countdown) (grace : Duration) (now : Instant) :
    Countdown × List TurnSignal :=
  match countdown.expiredAt with
  | some expiredAt =>
    if countdown.desyncReported = false ∧ grace ≤ now - expiredAt then
      ({ countdown with desyncReported := true }, [.desync (now - countdown.deadline)])
    else (countdown, [])
  | none => (countdown, [])

/-- One look at the clock. -/
def tick (countdown : Countdown) (localSlot : Slot) (grace : Duration) (now : Instant) :
    Countdown × List TurnSignal :=
  let (countdown, displays) := countdown.refresh now
  let (countdown, expiries) := countdown.expire localSlot now
  let (countdown, desyncs) := countdown.overdue grace now
  (countdown, displays ++ expiries ++ desyncs)

end Countdown

namespace TurnClock

/-- One look at the clock; without a turn nothing happens. -/
def tick (clock : TurnClock) (now : Instant) : TurnClock × List TurnSignal :=
  match clock.phase with
  | .active (some countdown) =>
    let (countdown, signals) := countdown.tick clock.localSlot clock.grace now
    ({ clock with phase := .active (some countdown) }, signals)
  | _ => (clock, [])

end TurnClock

end TileMatch
