import ClosedLoop.Duration

/-!
# Time

Time is counted in whole milliseconds from the making of the loop, and a deadline between two of
them falls on the later one. The clock holds points of time whose seconds fit 63 bits. No sleep
lasts longer than thirty years; a timer that is set anew may be set to any time the clock holds.
-/

namespace ClosedLoop

/-- A point in time: milliseconds since the loop was made. -/
abbrev Tick := Nat

/-- The first millisecond that is not before a number of nanoseconds. -/
def ceilMillis (nanos : Nat) : Nat :=
  (nanos + (nanosPerMilli - 1)) / nanosPerMilli

namespace Tick

/-- The milliseconds of thirty years of 365 days. -/
def farFuture : Nat := 30 * 365 * 86400 * 1000

/-- The point in time a delay after now, where the clock holds it. -/
def after? (now : Tick) (delay : Duration) : Option Tick :=
  let nanos := now * nanosPerMilli + delay.nanos
  if nanos < UInt64.size / 2 * nanosPerSec then some (ceilMillis nanos) else none

/-- The end of a sleep that begins now. -/
def sleepEnd (now : Tick) (delay : Duration) : Tick :=
  now + min (ceilMillis delay.nanos) farFuture

end Tick

theorem ceilMillis_add (millis nanos : Nat) :
    ceilMillis (millis * nanosPerMilli + nanos) = millis + ceilMillis nanos := by
  simp only [ceilMillis, nanosPerMilli]
  omega

theorem Tick.sleepEnd_zero (now : Tick) : now.sleepEnd .zero = now := rfl

theorem Tick.le_sleepEnd (now : Tick) (delay : Duration) : now ≤ now.sleepEnd delay :=
  Nat.le_add_right _ _

/-- Rounding up puts off a delay by less than a millisecond. -/
theorem Tick.after?_eq_some {now : Tick} {delay : Duration} {deadline : Tick}
    (h : Tick.after? now delay = some deadline) : deadline = now + ceilMillis delay.nanos := by
  simp only [Tick.after?] at h
  split at h
  · rw [← Option.some.inj h, ceilMillis_add]
  · cases h

end ClosedLoop
