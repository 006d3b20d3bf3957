import ClosedLoop.Backoff
import Mathlib.Algebra.Group.Nat.Defs

/-!
# Doubling without bounds

Durations end below 2^64 seconds and the factor of a delay at 32 bits. What a policy answers where
either runs out is the longest delay, and that is what numbers without bounds call for as well: a
product that is no duration is beyond every longest delay. Only an interval so short that not even
2^32 times it reach the longest delay lets the end of the factor be seen.

* `Duration.map_parts_times?` — a product is worked out on seconds and nanoseconds with one carry
* `BackoffPolicy.nanos_delay_of_factor`, `BackoffPolicy.delay_of_no_factor` — the two halves of the
  failure counts
* `nanos_delay_eq` — the delay as a number
-/

namespace ClosedLoop

namespace Duration

/-! ## Products -/

theorem nanos_times? {d product : Duration} {factor : Nat} (h : d.times? factor = some product) :
    product.nanos = d.nanos * factor := by
  unfold times? at h
  split at h
  · cases h
    rfl
  · cases h

/-- A product that is no duration is longer than all of them. -/
theorem nanos_lt_of_times?_eq_none {d : Duration} {factor : Nat} (h : d.times? factor = none)
    (other : Duration) : other.nanos < d.nanos * factor := by
  unfold times? at h
  split at h
  · cases h
  · next large => exact Nat.lt_of_lt_of_le other.nanos_lt (Nat.le_of_not_lt large)

/-- Whole seconds and the nanoseconds beyond them. -/
def parts (d : Duration) : Nat × Nat :=
  (d.secs, d.subsecNanos)

/-- The parts of a product, worked out on the parts: what the nanoseconds come to is carried. -/
def timesParts? (d : Duration) (factor : Nat) : Option (Nat × Nat) :=
  let nanos := d.subsecNanos * factor
  let secs := d.secs * factor + nanos / nanosPerSec
  if secs < UInt64.size then some (secs, nanos % nanosPerSec) else none

/-- The carry is all that seconds and nanoseconds have to do with each other. -/
theorem map_parts_times? (d : Duration) (factor : Nat) :
    (d.times? factor).map parts = d.timesParts? factor := by
  have split : d.nanos * factor =
      d.subsecNanos * factor + nanosPerSec * (d.secs * factor) := by
    rw [← d.secs_subsecNanos, Nat.add_mul, Nat.mul_comm d.secs, Nat.mul_assoc, Nat.add_comm]
  have secs : d.nanos * factor / nanosPerSec =
      d.secs * factor + d.subsecNanos * factor / nanosPerSec := by
    rw [split, Nat.add_mul_div_left _ _ (by decide), Nat.add_comm]
  have nanos : d.nanos * factor % nanosPerSec = d.subsecNanos * factor % nanosPerSec := by
    rw [split, Nat.add_mul_mod_self_left]
  unfold times? timesParts?
  simp only [← secs, ← nanos, Nat.div_lt_iff_lt_mul (show 0 < nanosPerSec by decide)]
  split
  · rfl
  · rfl

end Duration

namespace BackoffPolicy

variable (policy : BackoffPolicy) (interval : Duration) {failures : Nat}

/-! ## The two halves -/

theorem factor?_of_le (few : failures ≤ 32) : factor? failures = some (2 ^ (failures - 1)) := by
  have short : failures - 1 < 32 := by omega
  rw [factor?, if_pos short]
  rfl

theorem factor?_of_lt (many : 32 < failures) : factor? failures = none := by
  have long : ¬failures - 1 < 32 := by omega
  rw [factor?, if_neg long]

/-- While the factor fits, a product that does not is beyond the longest delay. -/
theorem nanos_delay_of_factor (two : 2 ≤ failures) (few : failures ≤ 32) :
    (policy.delay interval failures).nanos =
      max interval.nanos (min policy.maxDelay.nanos (interval.nanos * 2 ^ (failures - 1))) := by
  have notOne : ¬failures ≤ 1 := by omega
  rw [delay, if_neg notOne, factor?_of_le few, Option.bind_some]
  cases fits : interval.times? (2 ^ (failures - 1)) with
  | some product =>
    simp only [Duration.nanos_max, Duration.nanos_min, Duration.nanos_times? fits]
    omega
  | none =>
    have beyond := Duration.nanos_lt_of_times?_eq_none fits policy.maxDelay
    simp only [Duration.nanos_max]
    omega

theorem delay_of_no_factor (many : 32 < failures) :
    policy.delay interval failures = max policy.maxDelay interval := by
  have notOne : ¬failures ≤ 1 := by omega
  rw [delay, if_neg notOne, factor?_of_lt many, Option.bind_none]

/-- What 2^32 times an interval reach, more doublings reach too. -/
theorem le_doubled (many : 32 < failures) {longest : Nat}
    (reached : longest ≤ interval.nanos * 2 ^ 32) :
    longest ≤ interval.nanos * 2 ^ (failures - 1) := by
  have more : 2 ^ 32 ≤ 2 ^ (failures - 1) := Nat.pow_le_pow_right (by decide) (by omega)
  exact Nat.le_trans reached (Nat.mul_le_mul_left _ more)

end BackoffPolicy

/-! ## The delay as a number -/

/--
The delay behind any count of failures in a row, in nanoseconds as numbers without bounds. Up to 32
failures, and for every count if 2^32 times the interval reach the longest delay, it is the interval
behind none or one, and else the interval doubled with every further failure, between the interval
and the longest delay. In what is left, from 33 failures on with an interval too short for that, it
is the longest delay. The products it takes are those of seconds and nanoseconds with a carry.
-/
theorem nanos_delay_eq (policy : BackoffPolicy) (interval : Duration) (failures : Nat) :
    (policy.delay interval failures).nanos =
      (if failures ≤ 32 ∨ policy.maxDelay.nanos ≤ interval.nanos * 2 ^ 32 then
        if failures ≤ 1 then interval.nanos
        else max interval.nanos (min policy.maxDelay.nanos (interval.nanos * 2 ^ (failures - 1)))
      else policy.maxDelay.nanos) ∧
    ∀ factor, (interval.times? factor).map Duration.parts = interval.timesParts? factor := by
  refine ⟨?_, interval.map_parts_times?⟩
  by_cases one : failures ≤ 1
  · rw [if_pos (.inl (by omega)), if_pos one, policy.delay_of_le_one interval one]
  by_cases few : failures ≤ 32
  · rw [if_pos (.inl few), if_neg one]
    exact policy.nanos_delay_of_factor interval (by omega) few
  -- From here on there is no factor, and the longest delay is the answer.
  have many : 32 < failures := by omega
  rw [policy.delay_of_no_factor interval many, Duration.nanos_max, if_neg one]
  by_cases reached : policy.maxDelay.nanos ≤ interval.nanos * 2 ^ 32
  · have doubled := BackoffPolicy.le_doubled interval many reached
    rw [if_pos (.inr reached)]
    omega
  · rw [if_neg (by simp only [few, reached, or_self, not_false_eq_true])]
    omega

/-- The end of the factor is seen where the interval is a nanosecond: 33 failures, a minute. -/
example : (BackoffPolicy.standard.delay ⟨1, by decide⟩ 32).nanos = 2147483648 ∧
    (BackoffPolicy.standard.delay ⟨1, by decide⟩ 33).nanos = 60000000000 := by
  decide

end ClosedLoop
