/-!
# Durations and instants

Spans of time and points of time are whole numbers of nanoseconds. An instant counts from a fixed
origin, so the time between two instants is their (truncated) difference, and every clock reading
is a value that a caller passes in.

Spans may be longer than the clock goes. `Instant.after?` is the instant so long after another one,
if there is one.

`Duration.text` writes a span in the largest unit whose whole part is not zero, with the exact
decimal fraction.
-/

namespace TileMatch

/-- A span of time, in nanoseconds. -/
abbrev Duration := Nat

/-- A point of time, in nanoseconds since the origin of the clock. -/
abbrev Instant := Nat

namespace Duration

/-- Nanoseconds in a second. -/
def second : Duration := 1000000000

/-- Nanoseconds in a millisecond. -/
def millisecond : Duration := 1000000

/-- Nanoseconds in a microsecond. -/
def microsecond : Duration := 1000

/-- A whole number of seconds. -/
def ofSeconds (seconds : Nat) : Duration := seconds * second

/-- A whole number of milliseconds. -/
def ofMilliseconds (milliseconds : Nat) : Duration := milliseconds * millisecond

/-- The decimal fraction `part / 10 ^ places`, without trailing zeros and without a point when it
is zero. -/
def fractionText (part places : Nat) : String :=
  let digits := (Nat.toDigits 10 part)
  let padded := List.replicate (places - digits.length) '0' ++ digits
  let kept := (padded.reverse.dropWhile (· == '0')).reverse
  if kept.isEmpty then "" else String.ofList ('.' :: kept)

/-- A span counted in a unit of `10 ^ places` nanoseconds. -/
def textIn (duration : Duration) (places : Nat) (unit : String) : String :=
  let size := Nat.pow 10 places
  toString (duration / size) ++ fractionText (duration % size) places ++ unit

/-- The span in the largest of `s`, `ms`, `µs` and `ns` that fits into it at least once. -/
def text (duration : Duration) : String :=
  if second ≤ duration then duration.textIn 9 "s"
  else if millisecond ≤ duration then duration.textIn 6 "ms"
  else if microsecond ≤ duration then duration.textIn 3 "µs"
  else duration.textIn 0 "ns"

end Duration

namespace Instant

/-- The end of the clock, which counts the seconds in sixty-three bits. -/
def limit : Nat := 0x8000000000000000 * Duration.second

/-- The instant so long after another one, if the clock goes that far. -/
def after? (now : Instant) (span : Duration) : Option Instant :=
  if now + span < limit then some (now + span) else none

theorem after?_eq_some_iff {now later : Instant} {span : Duration} :
    after? now span = some later ↔ now + span < limit ∧ now + span = later := by
  unfold after?
  split <;> simp [*]

theorem after?_eq_none_iff {now : Instant} {span : Duration} :
    after? now span = none ↔ limit ≤ now + span := by
  unfold after?
  split <;> simp_all

end Instant

end TileMatch
