import GameRealm.Binary64.Rounding

/-!
# Durations and instants

Both count nanoseconds. A duration is never negative; an instant is measured
from a fixed base and may lie before it. The clock holds the whole seconds since
it was started, which was before the base, as a signed 64-bit number, so a
deadline too far ahead does not exist.
-/

namespace GameRealm

/-- A span of time in nanoseconds. -/
abbrev Duration := Nat

namespace Duration

def nanosPerMilli : Nat := 1000000
def nanosPerSecond : Nat := 1000000000

def ofMillis (ms : Nat) : Duration := ms * nanosPerMilli

def ofSeconds (s : Nat) : Duration := s * nanosPerSecond

/-- The duration in seconds as a double: the whole seconds plus the fraction,
each converted and then added. -/
def toSeconds (d : Duration) : Float :=
  (UInt64.ofNat (d / nanosPerSecond)).toFloat
    + (UInt64.ofNat (d % nanosPerSecond)).toFloat / 1000000000.0

/-- The nearest nanosecond to a non-negative number of seconds, a tie to even. -/
def ofSecondsFloat (seconds : Float) : Duration :=
  Binary64.roundTimes nanosPerSecond seconds

end Duration

/-- A point in time, in nanoseconds from the base. -/
abbrev Instant := Int

namespace Instant

def ofMillis (ms : Int) : Instant := ms * 1000000

/-- Milliseconds from the base, rounded down. -/
def toMillis (t : Instant) : Int := t / 1000000

/-- The time from `earlier` to `t`, nothing if `t` comes first. -/
def since (t earlier : Instant) : Duration := Int.toNat (t - earlier)

/-- The first number of whole seconds that the clock cannot hold. -/
def horizonSeconds : Int := 0x8000000000000000

/-- The whole seconds that the clock is taken to show at the base. -/
def clockAge : Int := 3600

/-- `t` plus whole seconds, if the clock can hold the sum. -/
def addSeconds? (t : Instant) (seconds : Nat) : Option Instant :=
  if clockAge + t / 1000000000 + seconds < horizonSeconds then
    some (t + seconds * 1000000000)
  else none

/-- The first whole millisecond not before `t`. -/
def ceilMilli (t : Instant) : Instant := -(-t / 1000000) * 1000000

end Instant

end GameRealm
