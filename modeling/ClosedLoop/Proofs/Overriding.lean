import ClosedLoop.Proofs.Runnable

/-!
# Options from the command line

The options of a run are made of a configuration that breaks no rule, and then an interval from the
command line may stand in for the configured one. That it is not zero is checked once more; whether
the longest delay is below it is not. Where it is, the backoff is lost: every delay is the interval.

* `LoopOptions.WellTimed` — the rules on the timing of a configuration, as rules on options
* `Config.withInterval` — the configuration in which the interval of the command line is written
* `overridden_options_wellTimed_iff` — when the options of a run keep the rules
* `options_above_longest_delay` — an interval that breaks one of them is taken
-/

namespace ClosedLoop

/-! ## Rules on timing -/

namespace Duration

variable {a b : UInt64}

theorem zero_lt_ofSecs_iff : zero < ofSecs a ↔ a ≠ 0 := by
  refine ⟨?_, zero_lt_ofSecs⟩
  rintro positive rfl
  exact Nat.lt_irrefl 0 positive

theorem ofSecs_le_ofSecs_iff : ofSecs a ≤ ofSecs b ↔ a ≤ b := by
  rw [le_iff, nanos_ofSecs, nanos_ofSecs, UInt64.le_iff_toNat_le]
  exact Nat.mul_le_mul_right_iff (by decide)

end Duration

namespace LoopOptions

/-- The rules on the timing of a configuration, kept by options. -/
structure WellTimed (options : LoopOptions) : Prop where
  interval : .zero < options.interval
  applyTimeout : .zero < options.applyTimeout
  longest : ∀ policy, options.backoff = some policy → options.interval ≤ policy.maxDelay

/-- Options keep the rules exactly if the section that they are made of does. -/
theorem wellTimed_ofConfig_iff {config : ControllerConfig} :
    (ofConfig config).WellTimed ↔ config.fault? = none := by
  have longest : (∀ policy, (ofConfig config).backoff = some policy →
      (ofConfig config).interval ≤ policy.maxDelay) ↔
        (config.backoff.enabled = true → config.intervalSecs ≤ config.backoff.maxSecs) := by
    unfold ofConfig
    cases enabled : config.backoff.enabled with
    | false => exact iff_of_true nofun nofun
    | true =>
      constructor
      · intro kept _
        exact Duration.ofSecs_le_ofSecs_iff.mp (kept _ rfl)
      · rintro kept policy ⟨⟩
        exact Duration.ofSecs_le_ofSecs_iff.mpr (kept rfl)
  rw [ControllerConfig.fault?_eq_none_iff, ← longest]
  constructor
  · rintro ⟨interval, applyTimeout, kept⟩
    exact ⟨Duration.zero_lt_ofSecs_iff.mp interval, Duration.zero_lt_ofSecs_iff.mp applyTimeout,
      kept⟩
  · rintro ⟨interval, applyTimeout, kept⟩
    exact ⟨Duration.zero_lt_ofSecs interval, Duration.zero_lt_ofSecs applyTimeout, kept⟩

/-- The bound on iterations is no matter of timing. -/
theorem wellTimed_setMaxIterations {options : LoopOptions} {maxIterations : Option Nat} :
    { options with maxIterations }.WellTimed ↔ options.WellTimed :=
  ⟨fun ⟨interval, applyTimeout, longest⟩ => ⟨interval, applyTimeout, longest⟩,
    fun ⟨interval, applyTimeout, longest⟩ => ⟨interval, applyTimeout, longest⟩⟩

/-- Where the longest delay is not at or above the interval, every delay is the interval. -/
theorem delayAfter_eq_interval {options : LoopOptions}
    (broken : ¬∀ policy, options.backoff = some policy → options.interval ≤ policy.maxDelay)
    (failures : Nat) : options.delayAfter failures = options.interval := by
  cases backoff : options.backoff with
  | none => exact delayAfter_of_no_backoff backoff failures
  | some policy =>
    have below : ¬options.interval ≤ policy.maxDelay := by
      intro kept
      refine broken fun policy' same => ?_
      cases backoff.symm.trans same
      exact kept
    have least := policy.le_delay options.interval failures
    have most := policy.delay_le options.interval failures
    rw [delayAfter_of_backoff backoff]
    apply Duration.ext
    rw [Duration.le_iff] at below least most
    rw [Duration.nanos_max] at most
    omega

end LoopOptions

/-! ## An interval from the command line -/

/-- A configuration with an interval written in it, where one is given. -/
def Config.withInterval (config : Config) (intervalSecs : Option UInt64) : Config :=
  { config with
    controller := { config.controller with
      intervalSecs := intervalSecs.getD config.controller.intervalSecs } }

namespace CommandLine

variable {config : Config} {intervalSecs maxIterations : Option UInt64}

/-- The options of a run are those of the configuration with the interval written in it. -/
theorem runOptions_eq (config : Config) (intervalSecs maxIterations : Option UInt64) :
    runOptions config intervalSecs maxIterations =
      { LoopOptions.ofConfig (config.withInterval intervalSecs).controller with
        maxIterations := maxIterations.map (·.toNat) } := by
  cases intervalSecs <;> cases maxIterations <;> rfl

/-- With a configuration that breaks no rule, every interval but zero is taken. -/
theorem enforcement_of_valid (valid : config.Valid) (positive : intervalSecs ≠ some 0)
    (maxIterations : Option UInt64) :
    ∃ t, enforcement config intervalSecs maxIterations = .ok t ∧
      t.loop.options = runOptions config intervalSecs maxIterations := by
  obtain ⟨intent, made, -⟩ := valid.runnable.intent
  obtain ⟨device, simulated, -⟩ := valid.runnable.device
  refine ⟨Timeline.create device intent (runOptions config intervalSecs maxIterations), ?_, rfl⟩
  simp only [enforcement, Timeline.ofConfig, made, simulated, if_neg positive]

theorem exists_enforcement_iff (valid : config.Valid) :
    (∃ t, enforcement config intervalSecs maxIterations = .ok t) ↔ intervalSecs ≠ some 0 := by
  constructor
  · rintro ⟨t, taken⟩ rfl
    obtain ⟨intent, made, -⟩ := valid.runnable.intent
    obtain ⟨device, simulated, -⟩ := valid.runnable.device
    simp [enforcement, Timeline.ofConfig, made, simulated] at taken
  · intro positive
    obtain ⟨t, taken, -⟩ := enforcement_of_valid valid positive maxIterations
    exact ⟨t, taken⟩

/-- The options of a run keep the rules where the configuration with the interval does. -/
theorem wellTimed_runOptions_iff (valid : config.Valid)
    (intervalSecs maxIterations : Option UInt64) :
    (runOptions config intervalSecs maxIterations).WellTimed ↔
      (config.withInterval intervalSecs).Valid := by
  obtain ⟨named, intent, initial, -⟩ := Config.valid_iff.mp valid
  rw [runOptions_eq, LoopOptions.wellTimed_setMaxIterations, LoopOptions.wellTimed_ofConfig_iff,
    Config.valid_iff]
  exact ⟨fun timing => ⟨named, intent, initial, timing⟩, fun kept => kept.2.2.2⟩

/-- These rules come down to the one that is not checked again. -/
theorem valid_withInterval_iff (valid : config.Valid) (positive : intervalSecs ≠ some 0) :
    (config.withInterval intervalSecs).Valid ↔
      ∀ secs, intervalSecs = some secs → config.controller.backoff.enabled = true →
        secs ≤ config.controller.backoff.maxSecs := by
  obtain ⟨named, intent, initial, timing⟩ := Config.valid_iff.mp valid
  obtain ⟨interval, applyTimeout, longest⟩ := ControllerConfig.fault?_eq_none_iff.mp timing
  constructor
  · rintro kept secs rfl
    exact (ControllerConfig.fault?_eq_none_iff.mp (Config.valid_iff.mp kept).2.2.2).2.2
  · intro kept
    refine Config.valid_iff.mpr ⟨named, intent, initial, ControllerConfig.fault?_eq_none_iff.mpr ?_⟩
    cases intervalSecs with
    | none => exact ⟨interval, applyTimeout, longest⟩
    | some secs =>
      exact ⟨fun zero => positive (congrArg some zero), applyTimeout, kept secs rfl⟩

end CommandLine

open CommandLine (enforcement)

/--
A run on a configuration that breaks no rule is refused exactly for an interval of zero. The options
of one that is taken have an interval and a time for each apply; they keep all rules exactly if the
configuration would with the interval written in it, which is to say, if no interval is given above
the longest delay of a backoff. Where they do not, every delay is the interval.
-/
theorem overridden_options_wellTimed_iff {config : Config} (valid : config.Valid)
    (intervalSecs maxIterations : Option UInt64) :
    ((∃ t, enforcement config intervalSecs maxIterations = .ok t) ↔ intervalSecs ≠ some 0) ∧
    ∀ t, enforcement config intervalSecs maxIterations = .ok t →
      .zero < t.loop.options.interval ∧ .zero < t.loop.options.applyTimeout ∧
      (t.loop.options.WellTimed ↔ (config.withInterval intervalSecs).Valid) ∧
      (t.loop.options.WellTimed ↔
        ∀ secs, intervalSecs = some secs → config.controller.backoff.enabled = true →
          secs ≤ config.controller.backoff.maxSecs) ∧
      (¬t.loop.options.WellTimed →
        ∀ failures, t.loop.options.delayAfter failures = t.loop.options.interval) := by
  refine ⟨CommandLine.exists_enforcement_iff valid, fun t taken => ?_⟩
  have positive := (CommandLine.exists_enforcement_iff valid).mp ⟨t, taken⟩
  obtain ⟨t', taken', options⟩ := CommandLine.enforcement_of_valid valid positive maxIterations
  cases taken.symm.trans taken'
  obtain ⟨interval, applyTimeout, -⟩ :=
    ControllerConfig.fault?_eq_none_iff.mp (Config.valid_iff.mp valid).2.2.2
  have written : (config.withInterval intervalSecs).controller.intervalSecs ≠ 0 := by
    cases intervalSecs with
    | none => exact interval
    | some secs => exact fun zero => positive (congrArg some zero)
  have kept := CommandLine.wellTimed_runOptions_iff valid intervalSecs maxIterations
  have longest := CommandLine.valid_withInterval_iff valid positive
  have paced : .zero < t.loop.options.interval := by
    rw [options, CommandLine.runOptions_eq]
    exact Duration.zero_lt_ofSecs written
  have limited : .zero < t.loop.options.applyTimeout := by
    rw [options, CommandLine.runOptions_eq]
    exact Duration.zero_lt_ofSecs applyTimeout
  refine ⟨paced, limited, options ▸ kept, options ▸ kept.trans longest, fun broken => ?_⟩
  exact LoopOptions.delayAfter_eq_interval fun kept => broken ⟨paced, limited, kept⟩

/-- A configuration in which nothing is written that has a default. -/
def Config.plain : Config where
  device := ⟨"router1", "ios-xr"⟩
  intent := ⟨"gnmi", 57400, true⟩

/-- An interval as long as the longest delay keeps the rules. -/
theorem options_at_longest_delay :
    Config.plain.Valid ∧ ∃ t, enforcement .plain (some 60) (some 1) = .ok t ∧
      t.loop.options.WellTimed ∧ .zero < t.loop.options.interval := by
  have valid : Config.plain.Valid := by decide
  obtain ⟨taken, kept⟩ := overridden_options_wellTimed_iff valid (some 60) (some 1)
  obtain ⟨t, made⟩ := taken.mpr (by decide)
  obtain ⟨paced, -, -, longest, -⟩ := kept t made
  refine ⟨valid, t, made, longest.mpr ?_, paced⟩
  rintro secs ⟨⟩ -
  decide

/-- One that is longer is taken as well, though the same in the configuration would be refused. -/
theorem options_above_longest_delay :
    Config.plain.Valid ∧ (∃ t, enforcement .plain (some 61) (some 1) = .ok t ∧
      t.loop.options.backoff = some ⟨.ofSecs 60⟩ ∧ t.loop.options.interval = .ofSecs 61 ∧
      ¬t.loop.options.WellTimed) ∧
    (Config.plain.withInterval (some 61)).fault? = some (.backoffBelowInterval 60 61) := by
  have valid : Config.plain.Valid := by decide
  have positive : (some 61 : Option UInt64) ≠ some 0 := by decide
  obtain ⟨t, made, options⟩ := CommandLine.enforcement_of_valid valid positive (some 1)
  have backoff : t.loop.options.backoff = some ⟨.ofSecs 60⟩ := options ▸ rfl
  have interval : t.loop.options.interval = .ofSecs 61 := options ▸ rfl
  refine ⟨valid, ⟨t, made, backoff, interval, fun kept => ?_⟩, by decide⟩
  exact absurd (interval ▸ kept.longest _ backoff) (by decide)

end ClosedLoop
