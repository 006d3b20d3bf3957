import ClosedLoop.Proofs.Doubling
import ClosedLoop.Proofs.Overriding
import ClosedLoop.Proofs.Rescheduling
import ClosedLoop.Proofs.Stopping

/-!
# Setting the timer anew

The timer of a wait is set in two ways. When the wait begins it takes any delay, and rings after
thirty years at the latest. Behind an iteration requested in the wait the deadline is worked out on
the clock, which does not hold every point in time; a loop that comes to one beyond it is given up.
Whether it can is seen from the configuration and the time. What counts is the longest delay, which
without a backoff is the interval.

* `Tick.Reaches` — the clock holds the end of a delay
* `ControllerConfig.longestDelay` — the longest of the delays that a section calls for
* `Move.Settles` — a move ends an iteration
* `Execution.aborted_iff` — which moves give up a loop
* `rearmed_wait_of_valid` — what becomes of a wait, for every configuration that breaks no rule
-/

namespace ClosedLoop

/-! ## What the clock holds -/

namespace Tick

variable {now : Tick} {delay longer : Duration}

/-- The clock holds the point in time a delay after now. -/
def Reaches (now : Tick) (delay : Duration) : Prop :=
  now * nanosPerMilli + delay.nanos < 2 ^ 63 * nanosPerSec

instance : Decidable (now.Reaches delay) :=
  inferInstanceAs (Decidable (_ < _))

theorem Reaches.mono (reaches : now.Reaches longer) (shorter : delay ≤ longer) :
    now.Reaches delay :=
  Nat.lt_of_le_of_lt (Nat.add_le_add_left shorter _) reaches

theorem after?_of_reaches (reaches : now.Reaches delay) :
    now.after? delay = some (now + ceilMillis delay.nanos) :=
  (if_pos reaches).trans (congrArg some (ceilMillis_add ..))

theorem after?_eq_none_iff : now.after? delay = none ↔ ¬now.Reaches delay := by
  constructor
  · intro beyond reaches
    exact nomatch beyond.symm.trans (after?_of_reaches reaches)
  · intro beyond
    exact if_neg beyond

end Tick

/-! ## The longest delay -/

/-- The longest of the delays that a section calls for. -/
def ControllerConfig.longestDelay (config : ControllerConfig) : Duration :=
  .ofSecs (if config.backoff.enabled then config.backoff.maxSecs else config.intervalSecs)

namespace LoopOptions

variable {config : ControllerConfig} (kept : config.fault? = none)
include kept

theorem delayAfter_le_longestDelay (failures : Nat) :
    (ofConfig config).delayAfter failures ≤ config.longestDelay := by
  unfold ofConfig ControllerConfig.longestDelay
  cases enabled : config.backoff.enabled with
  | false => exact Nat.le_refl _
  | true =>
    -- The rule on the backoff makes its longest delay the longer one of the two.
    have longest := (ControllerConfig.fault?_eq_none_iff.mp kept).2.2 enabled
    have most := BackoffPolicy.delay_le ⟨.ofSecs config.backoff.maxSecs⟩
      (.ofSecs config.intervalSecs) failures
    rw [Duration.le_iff, Duration.nanos_max,
      Nat.max_eq_right (Duration.ofSecs_le_ofSecs_iff.mpr longest)] at most
    exact most

theorem delayAfter_eq_longestDelay {failures : Nat} (many : 32 < failures) :
    (ofConfig config).delayAfter failures = config.longestDelay := by
  unfold ofConfig ControllerConfig.longestDelay
  cases enabled : config.backoff.enabled with
  | false => rfl
  | true =>
    have longest := (ControllerConfig.fault?_eq_none_iff.mp kept).2.2 enabled
    refine (BackoffPolicy.delay_of_no_factor _ _ many).trans (Duration.ext ?_)
    rw [Duration.nanos_max, Nat.max_eq_left (Duration.ofSecs_le_ofSecs_iff.mpr longest)]
    rfl

/-- What is so of shorter delays too is so of every delay exactly if it is of the longest. -/
theorem forall_delayAfter_iff {fits : Duration → Prop}
    (shorter : ∀ {delay longer}, delay ≤ longer → fits longer → fits delay) :
    (∀ failures, fits ((ofConfig config).delayAfter failures)) ↔ fits config.longestDelay := by
  constructor
  · intro all
    exact delayAfter_eq_longestDelay kept (Nat.lt_succ_self 32) ▸ all 33
  · intro longest failures
    exact shorter (delayAfter_le_longestDelay kept failures) longest

/-- The clock holds the end of every delay exactly if it does of the longest. -/
theorem reaches_delayAfter_iff {now : Tick} :
    (∀ failures, now.Reaches ((ofConfig config).delayAfter failures)) ↔
      now.Reaches config.longestDelay :=
  forall_delayAfter_iff kept fun shorter reaches => reaches.mono shorter

end LoopOptions

/-! ## Ends of iterations -/

/-- The move ends an iteration that was begun for this cause. -/
structure Move.Settles (move : Move) (cause : Cause) : Prop where
  busy : move.before.point.cause? = some cause
  settled : verdictsIn move.effects ≠ []

instance (move : Move) (cause : Cause) : Decidable (move.Settles cause) :=
  decidable_of_iff (move.before.point.cause? = some cause ∧ verdictsIn move.effects ≠ [])
    ⟨fun h => ⟨h.1, h.2⟩, fun h => ⟨h.busy, h.settled⟩⟩

namespace Loop

/-- The wait goes on until a point in time that the clock holds, or the loop is given up. -/
theorem point_resumeWait {l : Loop} {now : Tick} :
    (now.Reaches l.nextDelay ∧
        (l.resumeWait now).1.point = .waiting (now + ceilMillis l.nextDelay.nanos)) ∨
      (¬now.Reaches l.nextDelay ∧ (l.resumeWait now).1.point = .aborted) := by
  unfold resumeWait
  by_cases reaches : now.Reaches l.nextDelay
  · rw [Tick.after?_of_reaches reaches]
    exact .inl ⟨reaches, rfl⟩
  · rw [Tick.after?_eq_none_iff.mpr reaches]
    exact .inr ⟨reaches, rfl⟩

end Loop

namespace Move

variable {move : Move} {cause : Cause} {request : Nat}
  (taken : move.before.step move.now move.stimulus = some (move.after, move.effects))
include taken

/-- What an iteration comes to is told, and then the loop goes on for its cause. -/
theorem Settles.exists_verdict (settles : move.Settles cause) :
    ∃ verdict, move.effects = (move.before.conclude move.now cause verdict).2 ∧
      move.after = ((move.before.judged verdict).goOn move.now cause).1 := by
  rcases (Loop.transition_of_step taken).settles_or with
    ⟨cause', verdict, judges, same⟩ | ⟨nothing, -⟩
  · cases settles.busy.symm.trans judges.cause?_point
    exact ⟨verdict, congrArg Prod.snd same, congrArg Prod.fst same⟩
  · exact absurd nothing settles.settled

/-- Who asked in the wait is answered with an outcome. -/
theorem Settles.answers (settles : move.Settles (.awaited request)) :
    ∃ outcome, .reply request (.ok outcome) ∈ move.effects := by
  obtain ⟨verdict, effects, -⟩ := settles.exists_verdict taken
  exact ⟨verdict.outcome, effects ▸ List.mem_cons_of_mem _ (List.mem_cons_self ..)⟩

theorem Settles.rearms (settles : move.Settles (.awaited request))
    (below : move.after.limitReached = false) :
    (move.now.Reaches move.after.nextDelay ∧
        move.after.point = .waiting (move.now + ceilMillis move.after.nextDelay.nanos)) ∨
      (¬move.now.Reaches move.after.nextDelay ∧ move.after.point = .aborted) := by
  obtain ⟨verdict, -, after⟩ := settles.exists_verdict taken
  rw [after] at below ⊢
  rw [Loop.goOn_of_awaited below, Loop.nextDelay_resumeWait]
  exact Loop.point_resumeWait

theorem Settles.arms (settles : move.Settles .regular) (below : move.after.limitReached = false) :
    move.after.point = .waiting (move.now.sleepEnd move.after.nextDelay) := by
  obtain ⟨verdict, -, after⟩ := settles.exists_verdict taken
  rw [after] at below ⊢
  rw [Loop.goOn_of_regular below]
  rfl

end Move

theorem Move.overflows_iff {move : Move} :
    move.Overflows ↔ (∃ request, move.Settles (.awaited request)) ∧
      move.after.limitReached = false ∧ ¬move.now.Reaches move.after.nextDelay := by
  constructor
  · rintro ⟨⟨request, busy⟩, settled, below, beyond⟩
    exact ⟨⟨request, busy, settled⟩, below, Tick.after?_eq_none_iff.mp beyond⟩
  · rintro ⟨⟨request, busy, settled⟩, below, beyond⟩
    exact ⟨⟨request, busy⟩, settled, below, Tick.after?_eq_none_iff.mpr beyond⟩

/-! ## Loops that are given up -/

/-- A loop that has ended ends no iteration. -/
theorem Move.Overflows.goes {move : Move} (h : move.Overflows) : move.before.hasEnded = false := by
  obtain ⟨request, busy⟩ := h.requested
  cases ended : move.before.hasEnded with
  | false => rfl
  | true => rcases Loop.hasEnded_iff.mp ended with at_ | at_ <;> rw [at_] at busy <;> cases busy

/-- A loop is given up by a move that comes to a point in time beyond the clock, and no other. -/
theorem Execution.aborted_iff {l l' : Loop} {moves : List Move} (h : Execution l moves l')
    (goes : l.point ≠ .aborted) : l'.point = .aborted ↔ ∃ move ∈ moves, move.Overflows := by
  induction h with
  | start => exact iff_of_false goes fun ⟨_, member, _⟩ => List.not_mem_nil member
  | @step moves l₁ l₂ now stimulus effects earlier taken ih =>
    have transition := Loop.transition_of_step taken
    simp only [List.mem_append, List.mem_singleton, or_and_right, exists_or, exists_eq_left]
    cases ended : l₁.hasEnded with
    | true =>
      -- What is given up stays so, and what has ended is not given up again.
      have still : ¬Move.Overflows ⟨l₁, now, stimulus, effects, l₂⟩ := fun overflows =>
        nomatch overflows.goes.symm.trans ended
      rw [(transition.of_ended ended).1, ih, or_iff_left still]
    | false =>
      have before : ¬∃ move ∈ moves, move.Overflows := fun overflowed =>
        nomatch ended.symm.trans (Loop.hasEnded_iff.mpr (.inr (ih.mpr overflowed)))
      rw [transition.aborted_iff ended, or_iff_right before]

/-- The delay that a loop calls for is one of those that its options call for. -/
theorem Execution.exists_nextDelay {l l' : Loop} {moves : List Move} (h : Execution l moves l') :
    ∃ failures, l'.nextDelay = l.options.delayAfter failures :=
  ⟨l'.state.consecutiveFailures, by rw [Loop.nextDelay, h.sameSetup.options]⟩

/--
A request taken in the wait is answered with an outcome, whatever the configuration. Below the limit
the timer is then set anew if the clock holds the end of the delay; if it does not, the loop is
given up, though the timer behind a regular iteration takes every delay. A loop is given up in no
other way. With a configuration that breaks no rule, the clock holds the ends of all delays exactly
if it holds that of the longest, and a loop for which it always does is not given up.
-/
theorem rearmed_wait_of_valid {config : Config} (valid : config.Valid) {name : String}
    {intent : Intent} {maxIterations : Option Nat} {moves : List Move} {l : Loop}
    (h : Execution (.create name intent
      { LoopOptions.ofConfig config.controller with maxIterations }) moves l) :
    (∀ move ∈ moves, ∀ request, move.Settles (.awaited request) →
      (∃ outcome, .reply request (.ok outcome) ∈ move.effects) ∧
      (move.after.limitReached = false →
        (move.now.Reaches move.after.nextDelay ∧
            move.after.point = .waiting (move.now + ceilMillis move.after.nextDelay.nanos)) ∨
          (¬move.now.Reaches move.after.nextDelay ∧ move.after.point = .aborted))) ∧
    (∀ move ∈ moves, move.Settles .regular → move.after.limitReached = false →
      move.after.point = .waiting (move.now.sleepEnd move.after.nextDelay)) ∧
    (l.point = .aborted ↔ ∃ move ∈ moves, (∃ request, move.Settles (.awaited request)) ∧
      move.after.limitReached = false ∧ ¬move.now.Reaches move.after.nextDelay) ∧
    (∀ now : Tick,
      (∀ failures, now.Reaches ((LoopOptions.ofConfig config.controller).delayAfter failures)) ↔
        now.Reaches config.controller.longestDelay) ∧
    ((∀ move ∈ moves, move.now.Reaches config.controller.longestDelay) → l.point ≠ .aborted) := by
  have kept : config.controller.fault? = none := (Config.valid_iff.mp valid).2.2.2
  -- Behind each move the loop calls for a delay of the configuration, at most the longest.
  have steps : ∀ move ∈ moves,
      move.before.step move.now move.stimulus = some (move.after, move.effects) ∧
        move.after.nextDelay ≤ config.controller.longestDelay := by
    intro move member
    obtain ⟨ahead, behind, rfl⟩ := List.append_of_mem member
    obtain ⟨earlier, taken, -⟩ := h.move_taken
    obtain ⟨failures, delay⟩ := (earlier.step taken).exists_nextDelay
    exact ⟨taken, delay ▸ LoopOptions.delayAfter_le_longestDelay kept failures⟩
  have aborted := h.aborted_iff nofun
  refine ⟨?_, ?_, ?_, fun _ => LoopOptions.reaches_delayAfter_iff kept, ?_⟩
  · intro move member request settles
    have taken := (steps move member).1
    exact ⟨settles.answers taken, settles.rearms taken⟩
  · intro move member settles
    exact settles.arms (steps move member).1
  · simpa only [Move.overflows_iff] using aborted
  · intro reaches given
    obtain ⟨move, member, overflows⟩ := aborted.mp given
    exact (Move.overflows_iff.mp overflows).2.2 ((reaches move member).mono (steps move member).2)

/-- A run with a request in the first wait and another one behind it, for a compliant device. -/
def servedInWait (config : ControllerConfig) : List Move × Loop :=
  let options := { LoopOptions.ofConfig config with maxIterations := some 3 }
  (Loop.create "router1" .sample options).replay
    [(0, .handleMade), (0, .run), (0, .readAnswered (.ok Intent.sample.state)),
      (10, .send (.reconcile 1)), (10, .receive), (10, .readAnswered (.ok Intent.sample.state)),
      (20, .send (.reconcile 2))]

/-- With the default interval, the wait goes on for five seconds behind the request. -/
theorem rearmed_wait_of_plain :
    let run := servedInWait Config.plain.controller
    Config.plain.Valid ∧
      (∃ move ∈ run.1, move.Settles (.awaited 1) ∧ move.after.point = .waiting 5010) ∧
      (∀ move ∈ run.1, move.now.Reaches Config.plain.controller.longestDelay) ∧
      run.2.point ≠ .aborted := by
  intro run
  have valid : Config.plain.Valid := by decide
  have served : ∃ move ∈ run.1, move.Settles (.awaited 1) ∧ move.after.limitReached = false ∧
      move.now + ceilMillis move.after.nextDelay.nanos = 5010 := by decide
  have reaches : ∀ move ∈ run.1, move.now.Reaches Config.plain.controller.longestDelay := by decide
  obtain ⟨rearmed, -, aborted, -, lasts⟩ := rearmed_wait_of_valid valid (.of_replay _ _)
  refine ⟨valid, ?_, reaches, lasts reaches⟩
  obtain ⟨move, member, settles, below, deadline⟩ := served
  refine ⟨move, member, settles, ?_⟩
  rcases (rearmed move member 1 settles).2 below with ⟨-, waiting⟩ | ⟨beyond, -⟩
  · exact deadline ▸ waiting
  · exact absurd (aborted.mpr ⟨move, member, ⟨1, settles⟩, below, beyond⟩) (lasts reaches)

/-- A configuration with the longest interval there is. -/
def Config.slowest : Config :=
  { Config.plain with
    controller := { intervalSecs := 18446744073709551615, backoff := ⟨false, 60⟩ } }

/--
With the longest interval, a wait that has begun is given up behind the request, below the limit,
and the next request is not answered with an outcome.
-/
theorem rearmed_wait_of_slowest :
    let options := { LoopOptions.ofConfig Config.slowest.controller with maxIterations := some 3 }
    let run := servedInWait Config.slowest.controller
    Config.slowest.Valid ∧ Execution (.create "router1" .sample options) run.1 run.2 ∧
      (∃ move ∈ run.1, move.Settles .regular ∧
        move.after.point = .waiting Tick.farFuture ∧
        move.after.nextDelay = .ofSecs 18446744073709551615) ∧
      (∃ move ∈ run.1, move.Settles (.awaited 1) ∧ move.after.limitReached = false ∧
        move.after.point = .aborted) ∧
      repliesIn (effectsOf run.1) = [(1, .ok .compliant), (2, .error .channelClosed)] :=
  ⟨by decide, .of_replay _ _, by decide, by decide, by rfl⟩

end ClosedLoop
