import TileMatch.Binary32
import TileMatch.Duration

/-!
# Seconds from and for the outside

The server gives times in single-precision seconds, and the countdown is shown in whole seconds.
`Duration.ofSingle?` rounds a number of seconds to the nearest nanosecond and refuses what is no
span of time; `Duration.wholeSeconds` rounds up, in single precision.
-/

namespace TileMatch

namespace Duration

/-- The first number of nanoseconds that is too long for a span. -/
def limit : Nat := 0x10000000000000000 * second

/-- The span nearest to a number of seconds, a tie going to the even nanosecond. A number below
zero, an undefined one and one of `2 ^ 64` seconds or more have none. -/
def ofSingle? (seconds : Binary32) : Option Duration :=
  if seconds.isBelowZero || !seconds.isFinite then none
  else
    let span := roundedQuotient (seconds.units * second) Binary32.one
    if span < limit then some span else none

/-- The span for a number of seconds, zero when it has none. -/
def ofSingle (seconds : Binary32) : Duration := (ofSingle? seconds).getD 0

/-- The span in seconds and in single precision: whole seconds and nanoseconds are rounded apart. -/
def toSingle (duration : Duration) : Binary32 :=
  (Binary32.ofNat (duration / second)).add
    ((Binary32.ofNat (duration % second)).divide (Binary32.ofNat second))

/-- The span in whole seconds as it is shown, at most the greatest number of thirty-two bits. -/
def wholeSeconds (duration : Duration) : Nat := min 0xffffffff duration.toSingle.ceil

end Duration

end TileMatch
