import ClosedLoop.Backoff
import ClosedLoop.Config

/-!
# Options of a loop

The timing under which a loop runs, made from the `controller` section of a configuration.
-/

namespace ClosedLoop

/-- The timing of a loop and the iteration after which it ends. -/
structure LoopOptions where
  interval : Duration
  applyTimeout : Duration
  /-- How delays grow after failures; without it the delay is always the interval. -/
  backoff : Option BackoffPolicy
  /-- The iteration number at which the loop ends; without it the loop goes on. -/
  maxIterations : Option Nat
  deriving DecidableEq, Repr

namespace LoopOptions

/-- The options that a `controller` section describes. -/
def ofConfig (config : ControllerConfig) : LoopOptions where
  interval := .ofSecs config.intervalSecs
  applyTimeout := .ofSecs config.applyTimeoutSecs
  backoff := if config.backoff.enabled then some ⟨.ofSecs config.backoff.maxSecs⟩ else none
  maxIterations := none

/-- The options of a `controller` section in which nothing is written. -/
def standard : LoopOptions := ofConfig {}

/-- Options with another interval, if one is given, and this bound or none. -/
def override (options : LoopOptions) (intervalSecs : Option UInt64) (maxIterations : Option Nat) :
    LoopOptions :=
  { options with
    interval := (intervalSecs.map Duration.ofSecs).getD options.interval
    maxIterations }

/-- The delay before the next regular iteration after a count of failures in a row. -/
def delayAfter (options : LoopOptions) (failures : Nat) : Duration :=
  match options.backoff with
  | some policy => policy.delay options.interval failures
  | none => options.interval

theorem delayAfter_of_no_backoff {options : LoopOptions} (none : options.backoff = .none)
    (failures : Nat) : options.delayAfter failures = options.interval := by
  simp only [delayAfter, none]

theorem delayAfter_of_backoff {options : LoopOptions} {policy : BackoffPolicy}
    (some : options.backoff = .some policy) (failures : Nat) :
    options.delayAfter failures = policy.delay options.interval failures := by
  simp only [delayAfter, some]

theorem delayAfter_zero (options : LoopOptions) : options.delayAfter 0 = options.interval := by
  unfold delayAfter
  cases options.backoff with
  | none => rfl
  | some policy => exact policy.delay_of_le_one _ (Nat.zero_le _)

theorem delayAfter_mono (options : LoopOptions) {few many : Nat} (h : few ≤ many) :
    options.delayAfter few ≤ options.delayAfter many := by
  unfold delayAfter
  cases options.backoff with
  | none => exact Nat.le_refl _
  | some policy => exact policy.delay_mono _ h

end LoopOptions

end ClosedLoop
