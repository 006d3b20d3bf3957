import ClosedLoop.Duration

/-!
# Backoff

A device that keeps refusing is asked less and less often: from the second failure in a row the
interval doubles with every failure, up to a longest delay, and never falls below the interval.
-/

namespace ClosedLoop

/-- Doubling delays up to a longest one. -/
structure BackoffPolicy where
  maxDelay : Duration
  deriving DecidableEq, Repr

namespace BackoffPolicy

/-- A longest delay of one minute. -/
def standard : BackoffPolicy := ⟨.ofSecs 60⟩

/-- The factor `2 ^ (failures - 1)` as far as 32 bits hold it. -/
def factor? (failures : Nat) : Option Nat :=
  if failures - 1 < 32 then some (Nat.pow 2 (failures - 1)) else none

/--
The delay after a count of failures in a row: the interval for none or one, else the interval
times the factor, no longer than the longest delay (which also stands for a product or a factor
that is too large) and no shorter than the interval.
-/
def delay (policy : BackoffPolicy) (interval : Duration) (failures : Nat) : Duration :=
  if failures ≤ 1 then interval
  else
    match (factor? failures).bind interval.times? with
    | some scaled => max (min scaled policy.maxDelay) interval
    | none => max policy.maxDelay interval

theorem delay_of_le_one (policy : BackoffPolicy) (interval : Duration) {failures : Nat}
    (h : failures ≤ 1) : policy.delay interval failures = interval := by
  simp [delay, h]

theorem le_delay (policy : BackoffPolicy) (interval : Duration) (failures : Nat) :
    interval ≤ policy.delay interval failures := by
  rw [Duration.le_iff]
  unfold delay
  split
  · exact Nat.le_refl _
  · split
    · rw [Duration.nanos_max]
      exact Nat.le_max_right _ _
    · rw [Duration.nanos_max]
      exact Nat.le_max_right _ _

theorem delay_le (policy : BackoffPolicy) (interval : Duration) (failures : Nat) :
    policy.delay interval failures ≤ max interval policy.maxDelay := by
  rw [Duration.le_iff, Duration.nanos_max]
  unfold delay
  split
  · exact Nat.le_max_left _ _
  · split
    · rw [Duration.nanos_max, Duration.nanos_min]
      omega
    · rw [Duration.nanos_max]
      omega

/-- With fewer failures the product still fits, and is no longer. -/
theorem times?_factor?_mono {interval product : Duration} {few many : Nat} (h : few ≤ many)
    (fits : (factor? many).bind interval.times? = some product) :
    ∃ smaller, (factor? few).bind interval.times? = some smaller ∧
      smaller.nanos ≤ product.nanos := by
  unfold factor? at fits ⊢
  split at fits
  · next short =>
    have short' : few - 1 < 32 := by omega
    have less : interval.nanos * Nat.pow 2 (few - 1) ≤ interval.nanos * Nat.pow 2 (many - 1) :=
      Nat.mul_le_mul_left _ (Nat.pow_le_pow_right (by decide) (by omega))
    rw [if_pos short']
    simp only [Option.bind_some, Duration.times?] at fits ⊢
    split at fits
    · next room =>
      cases fits
      rw [dif_pos (Nat.lt_of_le_of_lt less room)]
      exact ⟨_, rfl, less⟩
    · cases fits
  · cases fits

/-- More failures in a row never shorten the delay, nor where factor or product grow too large. -/
theorem delay_mono (policy : BackoffPolicy) (interval : Duration) {few many : Nat}
    (h : few ≤ many) : policy.delay interval few ≤ policy.delay interval many := by
  by_cases one : few ≤ 1
  · rw [policy.delay_of_le_one interval one]
    exact policy.le_delay interval many
  · have two : ¬many ≤ 1 := by omega
    cases fits : (factor? many).bind interval.times? with
    | some product =>
      obtain ⟨smaller, fits', less⟩ := times?_factor?_mono h fits
      simp only [delay, if_neg one, if_neg two, fits, fits', Duration.le_iff, Duration.nanos_max,
        Duration.nanos_min]
      omega
    | none =>
      have longest := policy.delay_le interval few
      rw [Duration.le_iff, Duration.nanos_max] at longest
      simp only [delay, if_neg two, fits, Duration.le_iff, Duration.nanos_max] at longest ⊢
      omega

end BackoffPolicy

end ClosedLoop
