import TileMatch.Replay.Script
import TileMatch.Session.Call

/-!
# Replaying a script

A replay makes the calls of a script on a clock of its own. Before a step, the clock runs up to the
time of the step in ticks of fixed length, and it never runs backwards; right after the step there
is one more tick; and after the last step the clock runs on for a while.

Which calls are made at which times depends on the script and the length of a tick alone, so
`Script.calls` is a list, and a replay is the run of a session over it. It ends early when one of
the calls panics.
-/

namespace TileMatch

namespace Replay

/-- The length of a tick for a number of ticks in a second. No ticks in a second count as one, and
beyond a thousand million the length is zero. -/
def tickPeriod (ticksPerSecond : Nat) : Duration := Duration.second / max ticksPerSecond 1

/-- The ticks after a point of time up to another one. Ticks without a length lead nowhere, so there
are none of them. -/
def ticksUntil (period : Duration) (clock target : Instant) : List Instant :=
  (List.range ((target - clock) / period)).map fun count => clock + (count + 1) * period

/-- The call of an action. -/
def Action.call (now : Instant) : Action → Call
  | server event => .handle event now
  | input given => given.call now

/-- The time of a step. -/
def Step.time (step : Step) : Instant := Duration.ofMilliseconds step.atMilliseconds

/-- The calls of steps from a point of time on, and the time at which the clock then stands. -/
def callsFrom (period : Duration) (clock : Instant) : List Step → List Call × Instant
  | [] => ([], clock)
  | step :: rest =>
    let ticks := (ticksUntil period clock step.time).map Call.tick
    let now := max clock step.time
    let (later, final) := callsFrom period now rest
    (ticks ++ step.action.call now :: .tick now :: later, final)

namespace Script

/-- The milliseconds from the start to the end of a replay: so long after its last step. -/
def finishMilliseconds (script : Script) : Nat :=
  (script.steps.getLast?.map Step.atMilliseconds).getD 0 + script.runOutMilliseconds

/-- The time at which a replay ends, its milliseconds reduced to sixty-four bits. -/
def finish (script : Script) : Instant :=
  Duration.ofMilliseconds (script.finishMilliseconds % UInt64.size)

/-- The calls of a replay. -/
def calls (script : Script) (period : Duration) : List Call :=
  let (calls, clock) := callsFrom period 0 script.steps
  calls ++ (ticksUntil period clock script.finish).map Call.tick

end Script

/-- What has come of a replay so far. -/
structure Progress where
  session : Session
  ticks : Nat
  placements : Nat
  passes : Nat
  resyncs : Nat
  /-- Events that the session dropped. -/
  dropped : Nat
  /-- Inputs that the session refused. -/
  refused : Nat
  /-- Failures shown to the player, the last one first. -/
  surfaced : List SyncError

/-- Whether a call is a tick. -/
def isTick : Call → Bool
  | .tick _ => true
  | _ => false

/-- Whether an answer says that an event was dropped. -/
def isDropped : Answer → Bool
  | .handled (.error _) => true
  | _ => false

/-- Whether an answer says that an input was refused. -/
def isRefused : Answer → Bool
  | .input (.error _) => true
  | .confirmed (.error _) => true
  | _ => false

/-- The failure that an effect shows to the player. -/
def surfaced? : Effect → Option SyncError
  | .tell (.error error) => some error
  | _ => none

/-- Whether an effect sends a placement. -/
def isPlacement : Effect → Bool
  | .send (.placement _) => true
  | _ => false

namespace Progress

/-- Nothing has happened yet. -/
def start (session : Session) : Progress := ⟨session, 0, 0, 0, 0, 0, 0, []⟩

/-- One call has been made. -/
def made (progress : Progress) (call : Call) (outcome : Session.Outcome) : Progress :=
  { session := outcome.session
    ticks := progress.ticks + (isTick call).toNat
    placements := progress.placements + outcome.effects.countP isPlacement
    passes := progress.passes + outcome.effects.count (.send .pass)
    resyncs := progress.resyncs + outcome.effects.count (.send .resync)
    dropped := progress.dropped + (isDropped outcome.answer).toNat
    refused := progress.refused + (isRefused outcome.answer).toNat
    surfaced := (outcome.effects.filterMap surfaced?).reverse ++ progress.surfaced }

/-- Makes one call, unless it panics. -/
def make? (arithmetic : Arithmetic) (progress : Progress) (call : Call) : Option Progress :=
  (progress.session.call? arithmetic call).map (progress.made call)

end Progress

/-- The result of a replay. -/
structure Summary where
  steps : Nat
  /-- The ticks between the steps and after the last one. -/
  ticks : Nat
  placements : Nat
  passes : Nat
  resyncs : Nat
  dropped : Nat
  refused : Nat
  surfaced : List SyncError
  occupied : Nat
  deriving DecidableEq, Repr

/-- Why a replay has no result. -/
inductive ReplayError where
  | session (error : SyncError)
  /-- Ticks have no length, so that the clock never arrives anywhere. -/
  | stalled
  | panicked
  deriving DecidableEq, Repr

namespace Script

/-- Whether the end of a replay, or the number of its ticks, outgrows sixty-four bits. -/
def outgrows (script : Script) (ticks : Nat) : Bool :=
  UInt64.size ≤ script.finishMilliseconds || UInt64.size ≤ ticks

/-- The result of a replay that has made all its calls. Each step makes one tick of its own, which
is not counted, and the count has sixty-four bits. -/
def result (script : Script) (final : Progress) : Summary where
  steps := script.steps.length
  ticks := (final.ticks - script.steps.length) % UInt64.size
  placements := final.placements
  passes := final.passes
  resyncs := final.resyncs
  dropped := final.dropped
  refused := final.refused
  surfaced := final.surfaced.reverse
  occupied := final.session.grid.occupied

/-- Replays a script in a session with given times. -/
def replay (arithmetic : Arithmetic) (script : Script) (timing : Timing) (ticksPerSecond : Nat) :
    Except ReplayError Summary :=
  match Session.join script.roomId script.localSlot timing .occupancy with
  | .error error => .error (.session error)
  | .ok session =>
    let period := tickPeriod ticksPerSecond
    if period = 0 then .error .stalled
    else
      match (script.calls period).foldlM (Progress.make? arithmetic) (.start session) with
      | none => .error .panicked
      | some final =>
        if arithmetic = .checked && script.outgrows (final.ticks - script.steps.length) then
          .error .panicked
        else .ok (script.result final)

end Script

end Replay

end TileMatch
