import ClosedLoop.Proofs.Progress
import ClosedLoop.Sample

/-!
# Failures in a row

A loop counts the applies that have failed since the last one that succeeded, as far as 32 bits go,
and calls for its delays by this count. Iterations without an apply leave it as it is, so that over
a whole history the delays only grow from one success to the next.

* `failuresSince` — the failures behind the last success of a history of outcomes
* `LoopOptions.delayBehind` — the delay that a history calls for
* `Counted` — the count and what is told by it, kept by all that a step can be to the iterations
* `failures_and_delays_by_history` — counts, delays, and how these go on from one to the next
-/

namespace ClosedLoop

/-! ## Histories of outcomes -/

/-- The applies that have failed since the last one that succeeded, or since the beginning. -/
def failuresSince (outcomes : List Outcome) : Nat :=
  (outcomes.reverse.takeWhile (· ≠ .converged)).count .applyFailed

section

variable (outcomes : List Outcome)

theorem failuresSince_converged : failuresSince (outcomes ++ [.converged]) = 0 := by
  simp [failuresSince]

theorem failuresSince_applyFailed :
    failuresSince (outcomes ++ [.applyFailed]) = failuresSince outcomes + 1 := by
  simp [failuresSince]

/-- An iteration without an apply counts for nothing. -/
theorem failuresSince_unapplied {outcome : Outcome}
    (unapplied : outcome = .compliant ∨ outcome = .stateUnknown) :
    failuresSince (outcomes ++ [outcome]) = failuresSince outcomes := by
  rcases unapplied with rfl | rfl <;> simp [failuresSince]

theorem failuresSince_le_append {more : List Outcome} (unsettled : .converged ∉ more) :
    failuresSince outcomes ≤ failuresSince (outcomes ++ more) := by
  have behind : ∀ outcome ∈ more.reverse, decide (outcome ≠ .converged) = true := by
    intro outcome member
    refine decide_eq_true ?_
    rintro rfl
    exact unsettled (List.mem_reverse.mp member)
  rw [failuresSince, failuresSince, List.reverse_append, List.takeWhile_append_of_pos behind,
    List.count_append]
  exact Nat.le_add_left _ _

end

/-- The count of failures that is kept of a history. -/
def failuresKept (outcomes : List Outcome) : Nat :=
  min maxFailures (failuresSince outcomes)

theorem failuresKept_converged (outcomes : List Outcome) :
    failuresKept (outcomes ++ [.converged]) = 0 := by
  rw [failuresKept, failuresSince_converged, Nat.min_zero]

/-- One more failure counts, as far as the count goes. -/
theorem failuresKept_applyFailed (outcomes : List Outcome) :
    failuresKept (outcomes ++ [.applyFailed]) = min (failuresKept outcomes + 1) maxFailures := by
  rw [failuresKept, failuresSince_applyFailed, failuresKept]
  omega

theorem failuresKept_unapplied (outcomes : List Outcome) {outcome : Outcome}
    (unapplied : outcome = .compliant ∨ outcome = .stateUnknown) :
    failuresKept (outcomes ++ [outcome]) = failuresKept outcomes := by
  rw [failuresKept, failuresSince_unapplied outcomes unapplied, failuresKept]

/-! ## Delays -/

namespace LoopOptions

variable (options : LoopOptions)

/-- The delay that a history of outcomes calls for. -/
def delayBehind (outcomes : List Outcome) : Duration :=
  options.delayAfter (failuresKept outcomes)

theorem delayBehind_converged (outcomes : List Outcome) :
    options.delayBehind (outcomes ++ [.converged]) = options.interval := by
  rw [delayBehind, failuresKept_converged]
  exact options.delayAfter_zero

theorem delayBehind_le_append (outcomes : List Outcome) {more : List Outcome}
    (unsettled : .converged ∉ more) :
    options.delayBehind outcomes ≤ options.delayBehind (outcomes ++ more) := by
  have fewer : failuresSince outcomes ≤ failuresSince (outcomes ++ more) :=
    failuresSince_le_append outcomes unsettled
  refine options.delayAfter_mono (Nat.le_min.mpr ⟨Nat.min_le_left _ _, ?_⟩)
  exact Nat.le_trans (Nat.min_le_right _ _) fewer

end LoopOptions

/-! ## Counts -/

/-- The count told with a failure, and the delay told of a wait, are by the history ahead. -/
def ByHistory (options : LoopOptions) (ahead : List Effect) : Effect → Prop
  | .report (.applyFailed _ _ failures) =>
    failures = failuresKept (outcomesIn ahead ++ [.applyFailed])
  | .report (.waiting delay) => delay = options.delayBehind (outcomesIn ahead)
  | _ => True

/-- The count of failures in a row, and all that has been told by it, are by the history. -/
structure Counted (effects : List Effect) (l : Loop) (_ : Stage) : Prop where
  failures : l.state.consecutiveFailures = failuresKept (outcomesIn effects)
  told : Throughout (ByHistory l.options) effects

/-- Neither a failure nor a wait is told of. -/
theorem Counted.append_silent {effects more : List Effect} {l l' : Loop} {stage stage' : Stage}
    (h : Counted effects l stage) (options : l'.options = l.options)
    (failures : l'.state.consecutiveFailures = l.state.consecutiveFailures)
    (settled : outcomesIn more = [])
    (silent : ∀ effect ∈ more, ∀ ahead, ByHistory l.options ahead effect) :
    Counted (effects ++ more) l' stage' where
  failures := by
    rw [outcomesIn_append, settled, List.append_nil, failures]
    exact h.failures
  told := by
    rw [options]
    refine Throughout.append h.told ?_
    rintro ahead effect behind rfl
    exact silent effect (by simp) _

/-- The count behind a verdict is that of the history with its outcome. -/
theorem failures_judged {l : Loop} {outcomes : List Outcome}
    (h : l.state.consecutiveFailures = failuresKept outcomes) (verdict : Verdict) :
    (l.judged verdict).state.consecutiveFailures =
      failuresKept (outcomes ++ [verdict.outcome]) := by
  cases verdict with
  | unread error => exact h.trans (failuresKept_unapplied outcomes (.inr rfl)).symm
  | compliant observed => exact h.trans (failuresKept_unapplied outcomes (.inl rfl)).symm
  | applied state => exact (failuresKept_converged outcomes).symm
  | failed error =>
    show min (l.state.consecutiveFailures + 1) maxFailures = _
    rw [h]
    exact (failuresKept_applyFailed outcomes).symm

/-- Answers tell neither of failures nor of waits. -/
theorem byHistory_of_mem_answer {options : LoopOptions} {ahead : List Effect} {effect : Effect}
    {cause : Cause} {outcome : Outcome} (member : effect ∈ cause.answer outcome) :
    ByHistory options ahead effect := by
  cases cause with
  | regular => cases member
  | _ =>
    cases List.mem_singleton.mp member
    trivial

theorem kept_counted : Kept Counted where
  idle := by
    intro effects more l l' stage h same idle waits
    refine ⟨?_, ?_⟩
    · rw [outcomesIn_append_idle _ idle, same.failures]
      exact h.failures
    · rw [same.options]
      refine Throughout.append h.told ?_
      rintro ahead effect behind rfl
      have idleAhead : Idle ahead := fun effect member => idle effect (by simp [member])
      have alone := idle effect (by simp)
      cases effect with
      | report event =>
        cases event with
        | waiting delay =>
          show delay = l.options.delayBehind (outcomesIn (effects ++ ahead))
          rw [outcomesIn_append_idle _ idleAhead, LoopOptions.delayBehind, ← h.failures]
          exact waits delay (by simp)
        | applyFailed number error failures => cases alone
        | _ => trivial
      | _ => trivial
  begins := by
    intro effects l cause h
    exact h.append_silent rfl rfl rfl (by simp [Loop.startIteration, ByHistory])
  drifts := by
    intro effects l cause limit observed h differs
    exact h.append_silent rfl rfl rfl (by simp [ByHistory])
  settles := by
    intro effects l cause verdict h
    have judged := failures_judged h.failures verdict
    refine ⟨?_, ?_⟩
    · rw [outcomesIn_append_told]
      exact judged
    · rw [Loop.judged_options]
      refine Throughout.append h.told fun ahead effect behind cut => ?_
      cases ahead with
      | nil =>
        cases cut
        rw [List.append_nil]
        cases verdict with
        | failed error => exact judged
        | _ => trivial
      | cons first rest =>
        have answers : effect ∈ cause.answer verdict.outcome := by
          rw [(List.cons.inj cut).2]
          simp
        exact byHistory_of_mem_answer answers

/-! ## Counts and delays by history -/

/--
The count of failures in a row is the number of applies that have failed since the last one that
succeeded, as far as 32 bits go; it is told with each failure, that failure included. The delay that
a loop calls for, and every delay that it tells of a wait, is by this count: the interval without
backoff; with backoff it lies between the interval and the longest delay, is the interval behind a
success, and never shrinks until the next one.
-/
theorem failures_and_delays_by_history {name : String} {intent : Intent} {options : LoopOptions}
    {moves : List Move} {l : Loop} (h : Execution (Loop.create name intent options) moves l) :
    l.state.consecutiveFailures =
      min (UInt32.size - 1) (failuresSince (outcomesIn (effectsOf moves))) ∧
    (∀ outcomes outcome, outcome = .compliant ∨ outcome = .stateUnknown →
      failuresSince (outcomes ++ [outcome]) = failuresSince outcomes) ∧
    (∀ ahead number error failures behind,
      effectsOf moves = ahead ++ .report (.applyFailed number error failures) :: behind →
      failures = min (UInt32.size - 1) (failuresSince (outcomesIn ahead ++ [.applyFailed]))) ∧
    l.nextDelay = options.delayBehind (outcomesIn (effectsOf moves)) ∧
    (∀ ahead delay behind, effectsOf moves = ahead ++ .report (.waiting delay) :: behind →
      delay = options.delayBehind (outcomesIn ahead)) ∧
    (options.backoff = none → ∀ outcomes, options.delayBehind outcomes = options.interval) ∧
    (∀ policy, options.backoff = some policy → ∀ outcomes,
      options.interval ≤ options.delayBehind outcomes ∧
        options.delayBehind outcomes ≤ max options.interval policy.maxDelay) ∧
    (∀ outcomes, options.delayBehind (outcomes ++ [.converged]) = options.interval) ∧
    (∀ outcomes more, .converged ∉ more →
      options.delayBehind outcomes ≤ options.delayBehind (outcomes ++ more)) := by
  have same : l.options = options := h.sameSetup.options
  have counted : Counted (effectsOf moves) l l.point.stage :=
    kept_counted.of_new ⟨rfl, throughout_nil⟩ h
  have told := counted.told
  rw [same] at told
  refine ⟨counted.failures, fun outcomes outcome => failuresSince_unapplied outcomes, ?_, ?_, ?_,
    ?_, ?_, options.delayBehind_converged, ?_⟩
  · intro ahead number error failures behind cut
    exact told ahead _ behind cut
  · rw [Loop.nextDelay, counted.failures, same]
    rfl
  · intro ahead delay behind cut
    exact told ahead _ behind cut
  · intro none outcomes
    exact options.delayAfter_of_no_backoff none _
  · intro policy backoff outcomes
    rw [LoopOptions.delayBehind, options.delayAfter_of_backoff backoff]
    exact ⟨policy.le_delay _ _, policy.delay_le _ _⟩
  · intro outcomes more unsettled
    exact options.delayBehind_le_append outcomes unsettled

/-- A failed read between two failed applies does not stop the delay from doubling. -/
theorem delay_of_two_failures :
    let options : LoopOptions := ⟨.ofSecs 5, .ofSecs 10, some .standard, none⟩
    let run := (Loop.create "router1" .sample options).replay
      [(0, .run), (0, .readAnswered (.ok .drifted)),
        (0, .applyAnswered (.error (.apply "refused"))),
        (5000, .timeUp), (5000, .readAnswered (.error (.stateRead "no answer"))),
        (10000, .timeUp), (10000, .readAnswered (.ok .drifted)),
        (10000, .applyAnswered (.error (.apply "refused")))]
    outcomesIn (effectsOf run.1) = [.applyFailed, .stateUnknown, .applyFailed] ∧
      run.2.state.consecutiveFailures = 2 ∧ run.2.nextDelay = .ofSecs 10 ∧
      run.2.state.consecutiveFailures =
        min (UInt32.size - 1) (failuresSince [.applyFailed, .stateUnknown, .applyFailed]) ∧
      run.2.nextDelay = options.delayBehind [.applyFailed, .stateUnknown, .applyFailed] ∧
      run.2.nextDelay ≤ max (.ofSecs 5) (.ofSecs 60) := by
  intro options run
  have h : Execution (Loop.create "router1" .sample options) run.1 run.2 := .of_replay _ _
  have outcomes : outcomesIn (effectsOf run.1) = [.applyFailed, .stateUnknown, .applyFailed] := by
    decide
  obtain ⟨counted, -, -, delay, -, -, bounds, -⟩ := failures_and_delays_by_history h
  rw [outcomes] at counted delay
  refine ⟨outcomes, by decide, by decide, counted, delay, ?_⟩
  rw [delay]
  exact (bounds .standard rfl _).2

end ClosedLoop
