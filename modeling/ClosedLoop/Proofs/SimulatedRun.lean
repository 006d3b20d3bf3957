import ClosedLoop.CommandLine.Session
import ClosedLoop.Proofs.Simulated
import ClosedLoop.Sample

/-!
# Runs on a simulated device

A run that nobody disturbs performs its iterations one by one, each behind the delay that the one
before it calls for. On a simulated device these delays are known beforehand, and so are the times
of all iterations and what the program says at the end.

* `SimulatedDevice.startOf` — when an iteration starts
* `Timeline.Undisturbed` — a run to which no message comes, kept by every step
* `simulated_pipeline_closed_form` — outcomes under every schedule, times and summary of a run
-/

namespace ClosedLoop

attribute [local simp] List.filterMap_cons

/-! ## Delays -/

/-- Failures beyond the count that is kept call for no other delay. -/
theorem LoopOptions.delayAfter_min (options : LoopOptions) (failures : Nat) :
    options.delayAfter (min failures maxFailures) = options.delayAfter failures := by
  unfold delayAfter
  cases options.backoff with
  | none => rfl
  | some policy =>
    rcases Nat.le_total failures maxFailures with few | many
    · rw [Nat.min_eq_left few]
    · -- From 33 failures on no factor fits, and the delay stays what it is.
      have factor {count : Nat} (h : maxFailures ≤ count) :
          policy.delay options.interval count = max policy.maxDelay options.interval := by
        have large : 33 ≤ maxFailures := by decide
        have notFew : ¬count ≤ 1 := by omega
        have notShort : ¬count - 1 < 32 := by omega
        simp only [BackoffPolicy.delay, BackoffPolicy.factor?, if_neg notFew, if_neg notShort,
          Option.bind_none]
      rw [Nat.min_eq_right many]
      show policy.delay options.interval maxFailures = policy.delay options.interval failures
      rw [factor (Nat.le_refl _), factor many]

namespace SimulatedDevice

variable (d : SimulatedDevice) (intent : Intent) (options : LoopOptions)

/-- The delay behind the iteration of this number. -/
def delayOf (number : Nat) : Duration :=
  if d.state ≠ intent.state ∧ number ≤ d.rejectsRemaining then options.delayAfter number
  else options.interval

/-- How long the loop sleeps behind the iteration of this number: whole milliseconds, and no longer
than thirty years. -/
def pauseAfter (number : Nat) : Tick :=
  min (ceilMillis (d.delayOf intent options number).nanos) Tick.farFuture

/-- When the iteration of this number starts: the sum of all pauses before it. -/
def startOf (number : Nat) : Tick :=
  (List.range' 1 (number - 1)).foldl
    (fun time earlier => time + d.pauseAfter intent options earlier) 0

theorem startOf_succ (number : Nat) :
    d.startOf intent options (number + 2) =
      d.startOf intent options (number + 1) + d.pauseAfter intent options (number + 1) := by
  rw [startOf, startOf, Nat.add_sub_cancel, Nat.add_succ_sub_one, List.range'_1_concat,
    List.foldl_append, List.foldl_cons, List.foldl_nil, Nat.add_comm 1 number]

theorem delayAfter_failuresAfter (count : Nat) :
    options.delayAfter (d.failuresAfter intent count) = d.delayOf intent options count := by
  unfold failuresAfter delayOf
  split
  · exact options.delayAfter_min count
  · exact options.delayAfter_zero

end SimulatedDevice

/-! ## Regular iterations -/

namespace Loop

variable {l : Loop} {now : Tick} {result : Loop × List Effect} {bound : Nat}

/-- A loop that runs by itself: no message waits, and its bound is known. -/
structure Alone (l : Loop) (bound : Nat) : Prop where
  queue : l.queue = []
  limit : l.options.maxIterations = some bound

theorem limitReached_of_alone (alone : l.Alone bound) :
    l.limitReached = decide (bound ≤ l.state.iteration) := by
  rw [limitReached, alone.limit]

/-- With no message, a loop between two iterations begins the next one or halts at its bound. -/
theorem turn_of_alone (alone : l.Alone bound) :
    l.turn = if bound ≤ l.state.iteration then l.halt [] else l.startIteration .regular := by
  simp only [turn, alone.queue, limitReached_of_alone alone, decide_eq_true_eq]

theorem goOn_of_alone (alone : l.Alone bound) :
    l.goOn now .regular = if bound ≤ l.state.iteration then l.halt [] else l.startWait now := by
  simp only [goOn, limitReached_of_alone alone, decide_eq_true_eq]

theorem begunIn_goOn_of_alone (alone : l.Alone bound) : begunIn (l.goOn now .regular).2 = [] := by
  rw [goOn_of_alone alone]
  split
  · simp [halt]
  · rfl

end Loop

/-! ## Starts -/

namespace Timeline

section

variable {δ : Type} [Device δ] {t : Timeline δ}

/-- The iteration that begins, with the time. -/
def begunAt? : Tick × Effect → Option (Tick × Nat)
  | (time, .report (.iteration number)) => some (time, number)
  | _ => none

/-- The iterations begun, each with the time. -/
def starts (t : Timeline δ) : List (Tick × Nat) :=
  t.history.filterMap begunAt?

theorem begunAt?_eq (entry : Tick × Effect) :
    begunAt? entry = entry.2.begun?.map fun number => (entry.1, number) := by
  obtain ⟨time, effect⟩ := entry
  cases effect with
  | report event => cases event <;> rfl
  | _ => rfl

theorem starts_performAll (effects : List Effect) :
    (t.performAll effects).starts =
      t.starts ++ (begunIn effects).map fun number => (t.now, number) := by
  have here : (fun effect => begunAt? (t.now, effect)) =
      fun effect : Effect => effect.begun?.map fun number => (t.now, number) :=
    funext fun effect => begunAt?_eq (t.now, effect)
  calc (t.performAll effects).starts
      = t.starts ++ (stamped t.now effects).filterMap begunAt? := by
        rw [starts, history_performAll, List.filterMap_append, starts]
    _ = t.starts ++ effects.filterMap fun effect => begunAt? (t.now, effect) := by
        rw [stamped, List.filterMap_map]
        rfl
    _ = t.starts ++ (begunIn effects).map fun number => (t.now, number) := by
        rw [here, List.map_filterMap]

end

/-! ## Undisturbed runs -/

variable {d : SimulatedDevice} {intent : Intent} {options : LoopOptions} {bound : Nat}
  {l : Loop} {t : Timeline SimulatedDevice}

/--
No message waits or is still to come, and all iterations up to that of the loop given have been begun
as planned.
-/
structure Undisturbed (d : SimulatedDevice) (intent : Intent) (options : LoopOptions) (bound : Nat)
    (l : Loop) (t : Timeline SimulatedDevice) : Prop where
  setup : l.options = { options with maxIterations := some bound }
  queue : l.queue = []
  script : t.script = []
  starts : t.starts = (List.range' 1 l.state.iteration).map fun number =>
    (d.startOf intent options number, number)

namespace Undisturbed

theorem alone (h : Undisturbed d intent options bound l t) : l.Alone bound :=
  ⟨h.queue, by rw [h.setup]⟩

/-- What begins no iteration leaves a run undisturbed. -/
theorem still {l' : Loop} {effects : List Effect} (h : Undisturbed d intent options bound l t)
    (setup : l'.options = l.options) (queue : l'.queue = [])
    (number : l'.state.iteration = l.state.iteration) (quiet : begunIn effects = []) :
    Undisturbed d intent options bound l' (t.performAll effects) where
  setup := setup.trans h.setup
  queue := queue
  script := (performAll_script effects).trans h.script
  starts := by
    rw [starts_performAll, quiet, number]
    exact (List.append_nil _).trans h.starts

/-- An iteration is begun on time. -/
theorem begin (h : Undisturbed d intent options bound l t)
    (time : t.now = d.startOf intent options (l.state.iteration + 1)) (cause : Cause) :
    Undisturbed d intent options bound (l.startIteration cause).1
      (t.performAll (l.startIteration cause).2) where
  setup := h.setup
  queue := h.queue
  script := (performAll_script _).trans h.script
  starts := by
    rw [starts_performAll]
    show t.starts ++ [(t.now, l.state.iteration + 1)] =
      (List.range' 1 (l.state.iteration + 1)).map _
    rw [h.starts, time, List.range'_1_concat, List.map_append, Nat.add_comm 1]
    rfl

end Undisturbed

/-- An iteration of the run is in progress, at the time of its start. -/
structure OnTime (d : SimulatedDevice) (intent : Intent) (options : LoopOptions) (bound : Nat)
    (l : Loop) (now : Tick) : Prop where
  began : 1 ≤ l.state.iteration
  within : l.state.iteration ≤ bound
  time : now = d.startOf intent options l.state.iteration

/-- Where an undisturbed run is, and when. -/
inductive Place (d : SimulatedDevice) (intent : Intent) (options : LoopOptions) (bound : Nat)
    (t : Timeline SimulatedDevice) : Prop where
  | reading (point : t.loop.point = .reading .regular)
      (onTime : OnTime d intent options bound t.loop t.now)
  | applying {limit : Tick} (point : t.loop.point = .applying .regular limit)
      (onTime : OnTime d intent options bound t.loop t.now)
  | waiting {deadline : Tick} (point : t.loop.point = .waiting deadline)
      (below : t.loop.state.iteration < bound) (ahead : t.now ≤ deadline)
      (time : deadline = d.startOf intent options (t.loop.state.iteration + 1))
  | stopped (point : t.loop.point = .stopped) (all : t.loop.state.iteration = bound)

/-- An undisturbed run that is where it should be. -/
structure Orderly (d : SimulatedDevice) (intent : Intent) (options : LoopOptions) (bound : Nat)
    (t : Timeline SimulatedDevice) : Prop where
  undisturbed : Undisturbed d intent options bound t.loop t
  place : Place d intent options bound t

/-- How many steps a run has left at most: three for each iteration to come. -/
def remaining (bound : Nat) (t : Timeline SimulatedDevice) : Nat :=
  let left := 3 * (bound - t.loop.state.iteration)
  match t.loop.point with
  | .reading _ => left + 2
  | .applying _ _ => left + 1
  | .waiting _ => left
  | _ => 0

theorem sleepEnd_delayOf (now : Tick) (number : Nat) :
    now.sleepEnd (d.delayOf intent options number) =
      now + d.pauseAfter intent options number := by
  rw [Tick.sleepEnd, SimulatedDevice.pauseAfter]

/-- Behind an iteration of the plan, the loop sleeps as planned. -/
theorem nextDelay_eq {count : Nat} {effects : List Effect} (books : Books d intent effects l count)
    (setup : l.options = { options with maxIterations := some bound }) :
    l.nextDelay = d.delayOf intent options count := by
  rw [Loop.nextDelay, books.failures, setup]
  exact d.delayAfter_failuresAfter intent options count

namespace Orderly

/-- Behind an iteration the run is at its bound, or waits as planned. -/
theorem of_rest (h : Undisturbed d intent options bound l t)
    (onTime : OnTime d intent options bound l t.now)
    (loop : t.loop = (l.goOn t.now .regular).1) (follows : Follows d intent t) :
    Orderly d intent options bound t ∧ remaining bound t = 3 * (bound - l.state.iteration) := by
  rw [Loop.goOn_of_alone h.alone] at loop
  split at loop
  · next full =>
    have point : t.loop.point = .stopped := by rw [loop]; rfl
    have same : t.loop.state.iteration = l.state.iteration := by rw [loop]; rfl
    have all : l.state.iteration = bound := Nat.le_antisymm onTime.within full
    have halted : Undisturbed d intent options bound t.loop (t.performAll []) :=
      h.still (by rw [loop]; rfl) (by rw [loop]; rfl) same rfl
    refine ⟨⟨halted, .stopped point (same.trans all)⟩, ?_⟩
    simp only [remaining, point]
    omega
  · next below =>
    have point : t.loop.point = .waiting (t.now.sleepEnd l.nextDelay) := by rw [loop]; rfl
    have same : t.loop.state.iteration = l.state.iteration := by rw [loop]; rfl
    have waits : Undisturbed d intent options bound t.loop (t.performAll []) :=
      h.still (by rw [loop]; rfl) (by rw [loop]; exact h.queue) same rfl
    have delay : l.nextDelay = d.delayOf intent options l.state.iteration := by
      have planned := nextDelay_eq (follows.of_free (by rw [point]; rfl)).1 waits.setup
      rw [same] at planned
      rw [← planned, loop]
      rfl
    obtain ⟨number, first⟩ := Nat.exists_eq_add_of_le' onTime.began
    refine ⟨⟨waits, .waiting point (by omega) (Tick.le_sleepEnd _ _) ?_⟩, ?_⟩
    · rw [delay, sleepEnd_delayOf, onTime.time, same, first]
      exact (d.startOf_succ intent options number).symm
    · simp only [remaining, point, same]

/-- The end of an iteration. -/
theorem feed_of_judges {stimulus : Stimulus} {verdict : Verdict}
    (h : Undisturbed d intent options bound t.loop t)
    (onTime : OnTime d intent options bound t.loop t.now)
    (judges : t.loop.Judges t.now stimulus .regular verdict)
    (follows : Follows d intent (t.feed stimulus)) :
    Orderly d intent options bound (t.feed stimulus) ∧
      remaining bound (t.feed stimulus) = 3 * (bound - t.loop.state.iteration) := by
  have number : (t.loop.judged verdict).state.iteration = t.loop.state.iteration :=
    Loop.judged_iteration
  have alone : (t.loop.judged verdict).Alone bound :=
    ⟨Loop.judged_queue.trans h.queue, by rw [Loop.judged_options, h.setup]⟩
  have quiet : begunIn (t.loop.conclude t.now .regular verdict).2 = [] := by
    rw [Loop.conclude, ← List.cons_append, begunIn_append, Cause.begunIn_settled,
      Loop.begunIn_goOn_of_alone alone]
    rfl
  have concluded : Undisturbed d intent options bound t.loop
      { t with loop := (t.loop.conclude t.now .regular verdict).1 } :=
    ⟨h.setup, h.queue, h.script, h.starts⟩
  have judged : Undisturbed d intent options bound (t.loop.judged verdict)
      ({ t with loop := (t.loop.conclude t.now .regular verdict).1 }.performAll
        (t.loop.conclude t.now .regular verdict).2) :=
    concluded.still Loop.judged_options alone.queue number quiet
  have onTime' : OnTime d intent options bound (t.loop.judged verdict) t.now :=
    ⟨by rw [number]; exact onTime.began, by rw [number]; exact onTime.within,
      by rw [number]; exact onTime.time⟩
  rw [feed_of_step (Loop.step_of_judges judges)] at follows ⊢
  have rested := of_rest judged (by rw [performAll_now]; exact onTime')
    (by rw [performAll_loop, performAll_now]; rfl) follows
  rw [number] at rested
  exact rested

/-- The beginning of an apply. -/
theorem of_apply {limit : Tick} {effects : List Effect}
    (h : Undisturbed d intent options bound t.loop t)
    (onTime : OnTime d intent options bound t.loop t.now) (setup : l.options = t.loop.options)
    (queue : l.queue = t.loop.queue) (number : l.state.iteration = t.loop.state.iteration)
    (point : l.point = .applying .regular limit) (quiet : begunIn effects = []) :
    Orderly d intent options bound ({ t with loop := l }.performAll effects) ∧
      remaining bound ({ t with loop := l }.performAll effects) =
        3 * (bound - t.loop.state.iteration) + 1 := by
  have given : Undisturbed d intent options bound t.loop { t with loop := l } :=
    ⟨h.setup, h.queue, h.script, h.starts⟩
  have applying := given.still setup (queue.trans h.queue) number quiet
  refine ⟨⟨?_, .applying (by rw [performAll_loop]; exact point) ?_⟩, ?_⟩
  · rw [performAll_loop]
    exact applying
  · rw [performAll_loop, performAll_now]
    exact ⟨by rw [number]; exact onTime.began, by rw [number]; exact onTime.within,
      by rw [number]; exact onTime.time⟩
  · simp only [remaining, performAll_loop, point, number]

/-- The end of a read: the device is compliant, or is given the intent. -/
theorem feed_readAnswered {result : Except EnforcementError OperationalState}
    (h : Undisturbed d intent options bound t.loop t)
    (onTime : OnTime d intent options bound t.loop t.now)
    (point : t.loop.point = .reading .regular)
    (follows : Follows d intent (t.feed (.readAnswered result))) :
    Orderly d intent options bound (t.feed (.readAnswered result)) ∧
      remaining bound (t.feed (.readAnswered result)) ≤
        3 * (bound - t.loop.state.iteration) + 1 := by
  have judged {verdict : Verdict}
      (judges : t.loop.Judges t.now (.readAnswered result) .regular verdict) :
      Orderly d intent options bound (t.feed (.readAnswered result)) ∧
        remaining bound (t.feed (.readAnswered result)) ≤
          3 * (bound - t.loop.state.iteration) + 1 := by
    obtain ⟨orderly, left⟩ := feed_of_judges h onTime judges follows
    exact ⟨orderly, left ▸ Nat.le_succ _⟩
  cases result with
  | error error => exact judged (.unread point)
  | ok observed =>
    cases compliant : isCompliant t.loop.intent observed with
    | true => exact judged (.compliant point compliant)
    | false =>
      rw [feed_of_step (Loop.step_of_drifted point compliant)]
      exact And.imp_right Nat.le_of_eq (of_apply h onTime rfl rfl rfl rfl rfl)

/-- The end of an apply. -/
theorem feed_applyAnswered {limit : Tick} {result : Except EnforcementError OperationalState}
    (h : Undisturbed d intent options bound t.loop t)
    (onTime : OnTime d intent options bound t.loop t.now)
    (point : t.loop.point = .applying .regular limit) (inTime : t.now ≤ limit)
    (follows : Follows d intent (t.feed (.applyAnswered result))) :
    Orderly d intent options bound (t.feed (.applyAnswered result)) ∧
      remaining bound (t.feed (.applyAnswered result)) = 3 * (bound - t.loop.state.iteration) := by
  cases result with
  | error error => exact feed_of_judges h onTime (.failed point inTime) follows
  | ok applied => exact feed_of_judges h onTime (.applied point inTime) follows

/-- The beginning of a regular iteration, or the end at the bound. -/
theorem of_turn (h : Undisturbed d intent options bound l t) (within : l.state.iteration ≤ bound)
    (time : t.now = d.startOf intent options (l.state.iteration + 1)) (loop : t.loop = l.turn.1) :
    Orderly d intent options bound (t.performAll l.turn.2) ∧
      remaining bound (t.performAll l.turn.2) ≤ 3 * (bound - l.state.iteration) - 1 := by
  rw [Loop.turn_of_alone h.alone] at loop ⊢
  split at loop
  · next full =>
    have halted : Undisturbed d intent options bound (l.halt []).1 (t.performAll (l.halt []).2) :=
      h.still rfl rfl rfl (by simp [Loop.halt])
    rw [if_pos full]
    refine ⟨⟨?_, .stopped ?_ ?_⟩, ?_⟩
    · rw [performAll_loop, loop]
      exact halted
    · rw [performAll_loop, loop]
      rfl
    · rw [performAll_loop, loop]
      exact Nat.le_antisymm within full
    · simp only [remaining, performAll_loop, loop, Loop.halt]
      exact Nat.zero_le _
  · next below =>
    have room : l.state.iteration + 1 ≤ bound := Nat.lt_of_not_le below
    rw [if_neg below]
    refine ⟨⟨?_, .reading ?_ ?_⟩, ?_⟩
    · rw [performAll_loop, loop]
      exact h.begin time .regular
    · rw [performAll_loop, loop]
      rfl
    · rw [performAll_loop, performAll_now, loop]
      exact ⟨Nat.le_add_left .., room, time⟩
    · have number : (l.startIteration .regular).1.state.iteration = l.state.iteration + 1 := rfl
      have point : (l.startIteration .regular).1.point = .reading .regular := rfl
      simp only [remaining, performAll_loop, loop, number, point]
      omega

/-! ## One thing after the other -/

/-- A run that has not stopped goes on, and has less left. -/
theorem goes_on {messageFirst : Tick → Bool} (h : Orderly d intent options bound t)
    (follows : Follows d intent t) :
    (t.step? messageFirst = none ∧ t.loop.point = .stopped ∧ t.loop.state.iteration = bound) ∨
      ∃ t', t.step? messageFirst = some t' ∧
        (Orderly d intent options bound t' ∧ Follows d intent t') ∧
        remaining bound t' < remaining bound t := by
  have alone (now : Tick) (call : Option Call) (device : SimulatedDevice) :
      Undisturbed d intent options bound t.loop { t with now, call, device } :=
    ⟨h.undisturbed.setup, h.undisturbed.queue, h.undisturbed.script, h.undisturbed.starts⟩
  have script := h.undisturbed.script
  cases h.place with
  | stopped point all =>
    exact .inl ⟨step?_of_ended script (Loop.hasEnded_iff.mpr (.inl point)), point, all⟩
  | reading point onTime =>
    obtain ⟨result, call⟩ := follows.call_of_reading point
    have due : t.next? messageFirst = _ := next?_of_reading point call
    have follows' := follows.happen due
    refine .inr ⟨_, step?_of_next script due, ?_⟩
    rw [Nat.max_self] at follows' ⊢
    simp only [happen, answer, point] at follows' ⊢
    obtain ⟨orderly, left⟩ := feed_readAnswered (t := { t with call := none }) (alone _ _ _) onTime
      point follows'
    refine ⟨⟨orderly, follows'⟩, Nat.lt_of_le_of_lt left ?_⟩
    simp only [remaining, point]
    exact Nat.lt_succ_self _
  | @applying limit point onTime =>
    obtain ⟨inTime, result, call⟩ := follows.call_of_applying point
    have due : t.next? messageFirst = _ := next?_of_applying point call inTime
    have follows' := follows.happen due
    refine .inr ⟨_, step?_of_next script due, ?_⟩
    rw [Nat.max_self] at follows' ⊢
    simp only [happen, answer, point] at follows' ⊢
    obtain ⟨orderly, left⟩ := feed_applyAnswered (t := { t with call := none, device := _ })
      (alone _ _ _) onTime point inTime follows'
    refine ⟨⟨orderly, follows'⟩, Nat.lt_of_le_of_lt (Nat.le_of_eq left) ?_⟩
    simp only [remaining, point]
    exact Nat.lt_succ_self _
  | @waiting deadline point below ahead time =>
    have due : t.next? messageFirst = _ := next?_of_waiting point h.undisturbed.queue
    have follows' := follows.happen due
    have rings : t.loop.step deadline .timeUp = some t.loop.turn := by
      simp only [Loop.step, point, Nat.le_refl, if_true]
    have late : Undisturbed d intent options bound t.loop
        { t with now := deadline, call := none, loop := t.loop.turn.1 } :=
      ⟨h.undisturbed.setup, h.undisturbed.queue, script, h.undisturbed.starts⟩
    refine .inr ⟨_, step?_of_next script due, ?_⟩
    rw [Nat.max_eq_right ahead] at follows' ⊢
    simp only [happen] at follows' ⊢
    rw [feed_of_step (t := { t with now := deadline, call := none }) rings] at follows' ⊢
    obtain ⟨orderly, left⟩ := of_turn late (Nat.le_of_lt below) time rfl
    refine ⟨⟨orderly, follows'⟩, Nat.lt_of_le_of_lt left ?_⟩
    simp only [remaining, point]
    omega

end Orderly

/-! ## Whole runs -/

/-- The start of a run. -/
theorem orderly_run (d : SimulatedDevice) (intent : Intent) (options : LoopOptions) (bound : Nat) :
    let start := (create d intent { options with maxIterations := some bound }).feed .run
    Orderly d intent options bound start ∧ remaining bound start ≤ 3 * bound - 1 := by
  intro start
  let fresh := create d intent { options with maxIterations := some bound }
  have undisturbed : Undisturbed d intent options bound fresh.loop
      ({ fresh with loop := fresh.loop.turn.1 }.perform
        (.report (.start fresh.loop.name fresh.loop.intent))) := ⟨rfl, rfl, rfl, rfl⟩
  exact Orderly.of_turn undisturbed (Nat.zero_le _) rfl rfl

/-- A run of a new loop that nobody disturbs comes to its bound, and leaves all as planned. -/
theorem run?_of_bound (d : SimulatedDevice) (intent : Intent) (options : LoopOptions)
    {bound fuel : Nat} (enough : 3 * bound < fuel) (messageFirst : Tick → Bool) :
    ∃ final, (create d intent { options with maxIterations := some bound }).run? messageFirst fuel
        [] = some final ∧
      final.loop.point = .stopped ∧ final.loop.state.iteration = bound ∧
      final.starts = (List.range' 1 bound).map (fun number =>
        (d.startOf intent options number, number)) ∧
      Follows d intent final := by
  have goes (t : Timeline SimulatedDevice)
      (kept : Orderly d intent options bound t ∧ Follows d intent t) :
      t.step? messageFirst = none ∨ ∃ t', t.step? messageFirst = some t' ∧
        (Orderly d intent options bound t' ∧ Follows d intent t') ∧
          remaining bound t' < remaining bound t := by
    rcases kept.1.goes_on kept.2 with ⟨done, -⟩ | more
    · exact .inl done
    · exact .inr more
  obtain ⟨orderly, left⟩ := orderly_run d intent options bound
  have follows : Follows d intent
      ((create d intent { options with maxIterations := some bound }).feed .run) :=
    (Follows.create _ _ _).feed rfl
  have enough' : remaining bound
      ((create d intent { options with maxIterations := some bound }).feed .run) < fuel := by
    omega
  obtain ⟨final, settled, ⟨orderly', follows'⟩, done⟩ :=
    exists_settle? goes ⟨orderly, follows⟩ enough'
  refine ⟨final, settled, ?_⟩
  rcases orderly'.goes_on follows' with ⟨-, point, all⟩ | ⟨t', more, -⟩
  · exact ⟨point, all, all ▸ orderly'.undisturbed.starts, follows'⟩
  · exact nomatch done.symm.trans more

end Timeline

/-! ## Sessions -/

namespace CommandLine

open Text

theorem unlines_append (lines lines' : List String) :
    unlines (lines ++ lines') = unlines lines ++ unlines lines' := by
  rw [unlines, List.map_append, String.join_append]
  rfl

/-- A session that runs a loop, by the stages of its start. -/
theorem start_run {files : FileReader} {path : String} {interval maxIterations : Option UInt64}
    {config : Config} {intent : Intent} {device : SimulatedDevice}
    (loaded : loadConfig files path = .ok config) (valid : config.intent.toIntent = .ok intent)
    (simulated : SimulatedDevice.ofConfig config = .ok device) (positive : interval ≠ some 0) :
    start files path (.run interval maxIterations) =
      .ok (.enforcing (unlines (summaryLines config ++ ["", "Starting closed-loop automation..."]))
        (Timeline.create device intent (runOptions config interval maxIterations))) := by
  simp only [start, loaded, enforcement, Timeline.ofConfig, valid, simulated, if_neg positive]

/-- A bounded session ends well, and says at last what the plan has for its bound. -/
theorem session?_run {files : FileReader} {filter : Report.LogFilter} {arguments : List String}
    {path : Option String} {interval : Option UInt64} {bound : UInt64} {config : Config}
    {intent : Intent} {device : SimulatedDevice} {fuel : Nat}
    (asked : Request.ofArguments arguments = .ok (.command path (.run interval (some bound))))
    (loaded : loadConfig files (path.getD defaultPath) = .ok config)
    (valid : config.intent.toIntent = .ok intent)
    (simulated : SimulatedDevice.ofConfig config = .ok device) (positive : interval ≠ some 0)
    (enough : 3 * bound.toNat < fuel) :
    ∃ output, session? fuel files filter arguments = some output ∧ output.code = 0 ∧
      output.out = unlines (summaryLines config ++ ["", "Starting closed-loop automation...",
        closingLine (device.summaryAfter intent bound.toNat)]) := by
  obtain ⟨final, ran, stopped, number, -, follows⟩ := Timeline.run?_of_bound device intent
    (runOptions config interval (some bound)) enough (fun _ => false)
  have summary := (follows.of_free (by rw [stopped]; rfl)).2.1
  have started : start files _ (.run interval (some bound)) = _ :=
    start_run loaded valid simulated positive
  have bounded : runOptions config interval (some bound) =
      { runOptions config interval (some bound) with maxIterations := some bound.toNat } := rfl
  let opening := unlines (summaryLines config ++ ["", "Starting closed-loop automation..."])
  refine ⟨ended filter opening final, ?_, rfl, ?_⟩
  · simp only [session?, asked, started]
    rw [bounded, ran]
    rfl
  · show opening ++ unlines [closingLine final.loop.summary] = _
    rw [summary, number, ← unlines_append, List.append_assoc]
    rfl

end CommandLine

/-! ## The closed form -/

/--
A loop on a simulated device in closed form.

Under every schedule in which nobody else changes the device, iterations are numbered from one, and
whoever is told an outcome is told the one that the plan has for the last iteration begun; between
two iterations the summary and the state of the device are those of the plan.

A run of a new loop that nobody disturbs performs as many iterations as its bound says, and each
begins once all delays before it are over. A session that runs such a loop says at last what the
plan has for its bound.
-/
theorem simulated_pipeline_closed_form (device : SimulatedDevice) (intent : Intent)
    (options : LoopOptions) :
    (∀ t, Timeline.Reaches (.create device intent options) t →
      begunIn t.effects = List.range' 1 t.loop.state.iteration ∧
      Tells (device.outcomeOf intent) t.effects ∧
      (∀ cause, t.loop.point.cause? = some cause →
        verdictsIn t.effects = (List.range' 1 (t.loop.state.iteration - 1)).map fun number =>
          (number, device.outcomeOf intent number)) ∧
      (t.loop.point.cause? = none →
        verdictsIn t.effects = (List.range' 1 t.loop.state.iteration).map (fun number =>
          (number, device.outcomeOf intent number)) ∧
        t.loop.summary = device.summaryAfter intent t.loop.state.iteration ∧
        t.device.state =
          if t.loop.state.iteration ≤ device.rejectsRemaining then device.state
          else intent.state)) ∧
    (∀ bound fuel messageFirst, 3 * bound < fuel →
      ∃ final, (Timeline.create device intent { options with maxIterations := some bound }).run?
          messageFirst fuel [] = some final ∧
        final.loop.point = .stopped ∧
        final.starts = (List.range' 1 bound).map (fun number =>
          (device.startOf intent options number, number)) ∧
        verdictsIn final.effects = (List.range' 1 bound).map (fun number =>
          (number, device.outcomeOf intent number)) ∧
        final.loop.summary = device.summaryAfter intent bound ∧
        final.device.state =
          if bound ≤ device.rejectsRemaining then device.state else intent.state) ∧
    ∀ files filter arguments path interval bound config fuel,
      CommandLine.Request.ofArguments arguments =
        .ok (.command path (.run interval (some bound))) →
      CommandLine.loadConfig files (path.getD CommandLine.defaultPath) = .ok config →
      config.intent.toIntent = .ok intent → SimulatedDevice.ofConfig config = .ok device →
      interval ≠ some 0 → 3 * bound.toNat < fuel →
      ∃ output, CommandLine.session? fuel files filter arguments = some output ∧
        output.code = 0 ∧
        output.out = CommandLine.unlines (CommandLine.summaryLines config ++
          ["", "Starting closed-loop automation...",
            CommandLine.closingLine (device.summaryAfter intent bound.toNat)]) := by
  refine ⟨?schedules, ?runs, ?sessions⟩
  case schedules =>
    intro t reaches
    have follows := (Timeline.Follows.create device intent options).of_reaches reaches
    obtain ⟨begun, tells⟩ := follows.told
    refine ⟨begun, tells, fun cause busy => (follows.of_busy busy).verdicts, fun free => ?_⟩
    obtain ⟨books, summary, state⟩ := follows.of_free free
    refine ⟨books.verdicts, summary, ?_⟩
    rw [state]
    exact device.deviceAfter_state intent _
  case runs =>
    intro bound fuel messageFirst enough
    obtain ⟨final, ran, stopped, number, starts, follows⟩ :=
      Timeline.run?_of_bound device intent options enough messageFirst
    obtain ⟨books, summary, state⟩ := follows.of_free (by rw [stopped]; rfl)
    rw [number] at books summary state
    refine ⟨final, ran, stopped, starts, books.verdicts, summary, ?_⟩
    rw [state]
    exact device.deviceAfter_state intent bound
  case sessions =>
    intro files filter arguments path interval bound config fuel
    exact CommandLine.session?_run

/-- A drifted device that refuses once, in three iterations under delays that do not grow yet. -/
theorem closed_form_of_one_refusal :
    let device : SimulatedDevice := ⟨"router1", "ios-xr", .drifted, 1⟩
    let options : LoopOptions := ⟨.ofSecs 5, .ofSecs 10, some .standard, none⟩
    ∃ final, (Timeline.create device .sample { options with maxIterations := some 3 }).run?
        (fun _ => false) 10 [] = some final ∧
      final.loop.point = .stopped ∧
      final.starts = [(0, 1), (5000, 2), (10000, 3)] ∧
      verdictsIn final.effects = [(1, .applyFailed), (2, .converged), (3, .compliant)] ∧
      final.loop.summary = { iterations := 3, applies := 1, applyFailures := 1 } ∧
      final.device.state = Intent.sample.state :=
  (simulated_pipeline_closed_form ⟨"router1", "ios-xr", .drifted, 1⟩ .sample
    ⟨.ofSecs 5, .ofSecs 10, some .standard, none⟩).2.1 3 10 (fun _ => false) (by decide)

/-- A delay of more than thirty years is cut, although the clock holds its end. -/
theorem second_start_of_long_delay :
    let device : SimulatedDevice := ⟨"router1", "ios-xr", .drifted, 0⟩
    let options : LoopOptions := ⟨.ofSecs 946080001, .ofSecs 10, none, some 2⟩
    Tick.after? 0 options.interval = some 946080001000 ∧
      ceilMillis options.interval.nanos = 946080001000 ∧
      ((Timeline.create device .sample options).run? (fun _ => false) 10 []).map Timeline.starts =
        some [(0, 1), (946080000000, 2)] := by
  decide

end ClosedLoop
