import ClosedLoop.Proofs.Progress
import ClosedLoop.Proofs.Stepping
import ClosedLoop.Device.Simulated

/-!
# A loop on a simulated device

A simulated device that has drifted refuses a number of applies and takes the next one. So its loop
fails as many times, converges once and finds the device compliant from then on, whoever its
iterations are run for and whatever messages come between.

* `Timeline.Follows` — a timeline that goes by this plan
* `Timeline.Follows.of_reaches` — every timeline that is reached without a change of the device does
-/

namespace ClosedLoop

attribute [local simp] List.filterMap_cons

/-! ## The plan -/

namespace SimulatedDevice

variable (d : SimulatedDevice) (intent : Intent)

/-- The outcome of the iteration of this number. -/
def outcomeOf (number : Nat) : Outcome :=
  if d.state = intent.state then .compliant
  else if number ≤ d.rejectsRemaining then .applyFailed
  else if number = d.rejectsRemaining + 1 then .converged
  else .compliant

/-- The summary of a loop behind a number of iterations. -/
def summaryAfter (count : Nat) : Summary :=
  if d.state = intent.state then { iterations := count }
  else {
    iterations := count
    applies := if d.rejectsRemaining < count then 1 else 0
    applyFailures := min count d.rejectsRemaining }

/-- The failures in a row behind a number of iterations. -/
def failuresAfter (count : Nat) : Nat :=
  if d.state ≠ intent.state ∧ count ≤ d.rejectsRemaining then min count maxFailures else 0

/-- The device behind a number of iterations. -/
def deviceAfter (count : Nat) : SimulatedDevice :=
  if d.state = intent.state then d
  else {
    d with
    state := if count ≤ d.rejectsRemaining then d.state else intent.state
    rejectsRemaining := d.rejectsRemaining - count }

variable {d} in
theorem startApply_of_refused {rejects : Nat} (left : d.rejectsRemaining = rejects + 1) :
    ∃ error, d.startApply intent =
      ({ d with rejectsRemaining := rejects }, ⟨.zero, .error error⟩) := by
  unfold startApply
  rw [left]
  exact ⟨_, rfl⟩

variable {d} in
theorem startApply_of_taken (none : d.rejectsRemaining = 0) :
    d.startApply intent = (d, ⟨.zero, .ok intent.state⟩) := by
  unfold startApply
  rw [none]

variable {d intent} {count : Nat}

theorem rejectsRemaining_deviceAfter (drifted : d.state ≠ intent.state) :
    (d.deviceAfter intent count).rejectsRemaining = d.rejectsRemaining - count := by
  rw [deviceAfter, if_neg drifted]

theorem summaryAfter_iterations : (d.summaryAfter intent count).iterations = count := by
  unfold summaryAfter
  split <;> rfl

/-- The device is as intended from the start, or from the apply that it takes. -/
theorem state_deviceAfter :
    (d.deviceAfter intent count).state = intent.state ↔
      d.state = intent.state ∨ d.rejectsRemaining < count := by
  unfold deviceAfter
  split
  · next same => simp [same]
  · next drifted =>
    by_cases early : count ≤ d.rejectsRemaining
    · simp [drifted, early, Nat.not_lt.mpr early]
    · simp [early, Nat.lt_of_not_le early]

/-- The state of the device is its first one up to the last refusal, and the intent from then on. -/
theorem deviceAfter_state (d : SimulatedDevice) (intent : Intent) (count : Nat) :
    (d.deviceAfter intent count).state =
      if count ≤ d.rejectsRemaining then d.state else intent.state := by
  unfold deviceAfter
  split
  · next same =>
    split
    · rfl
    · exact same
  · rfl

/-! ## One iteration of the plan -/

/-- From the apply that it takes, or from the start, the device is found compliant. -/
theorem plan_of_compliant (settled : d.state = intent.state ∨ d.rejectsRemaining < count) :
    d.outcomeOf intent (count + 1) = .compliant ∧
      d.failuresAfter intent (count + 1) = d.failuresAfter intent count ∧
      d.summaryAfter intent (count + 1) =
        { d.summaryAfter intent count with iterations := count + 1 } ∧
      d.deviceAfter intent (count + 1) = d.deviceAfter intent count := by
  unfold outcomeOf failuresAfter summaryAfter deviceAfter
  by_cases same : d.state = intent.state
  · simp [same]
  · have late : d.rejectsRemaining < count := settled.resolve_left same
    have one : ¬count + 1 ≤ d.rejectsRemaining := by omega
    have two : ¬count ≤ d.rejectsRemaining := by omega
    have three : d.rejectsRemaining < count + 1 := by omega
    have four : ¬count = d.rejectsRemaining := by omega
    have five : min (count + 1) d.rejectsRemaining = min count d.rejectsRemaining := by omega
    have six : d.rejectsRemaining - (count + 1) = d.rejectsRemaining - count := by omega
    simp [same, one, two, three, four, five, six, late]

/-- Before that, each apply but the last is refused. -/
theorem plan_of_refused (drifted : d.state ≠ intent.state) (early : count < d.rejectsRemaining) :
    d.outcomeOf intent (count + 1) = .applyFailed ∧
      d.failuresAfter intent (count + 1) = min (d.failuresAfter intent count + 1) maxFailures ∧
      d.summaryAfter intent (count + 1) =
        { d.summaryAfter intent count with
          iterations := count + 1
          applyFailures := (d.summaryAfter intent count).applyFailures + 1 } ∧
      d.deviceAfter intent (count + 1) =
        { d.deviceAfter intent count with
          rejectsRemaining := d.rejectsRemaining - (count + 1) } := by
  unfold outcomeOf failuresAfter summaryAfter deviceAfter
  have one : count + 1 ≤ d.rejectsRemaining := early
  have two : count ≤ d.rejectsRemaining := by omega
  have three : ¬d.rejectsRemaining < count + 1 := by omega
  have four : ¬d.rejectsRemaining < count := by omega
  have five : min (count + 1) maxFailures = min (min count maxFailures + 1) maxFailures := by omega
  simp [drifted, one, two, three, four, five]

/-- The last apply is taken. -/
theorem plan_of_taken (drifted : d.state ≠ intent.state) :
    d.outcomeOf intent (d.rejectsRemaining + 1) = .converged ∧
      d.failuresAfter intent (d.rejectsRemaining + 1) = 0 ∧
      d.summaryAfter intent (d.rejectsRemaining + 1) =
        { d.summaryAfter intent d.rejectsRemaining with
          iterations := d.rejectsRemaining + 1
          applies := (d.summaryAfter intent d.rejectsRemaining).applies + 1 } ∧
      d.deviceAfter intent (d.rejectsRemaining + 1) =
        { d.deviceAfter intent d.rejectsRemaining with state := intent.state } := by
  have past : ¬d.rejectsRemaining + 1 ≤ d.rejectsRemaining := by omega
  unfold outcomeOf failuresAfter summaryAfter deviceAfter
  simp [drifted, past]

end SimulatedDevice

/-! ## What is told of outcomes -/

/-- Whoever is told an outcome is told that of the last iteration begun. -/
def Tells (expected : Nat → Outcome) (effects : List Effect) : Prop :=
  ∀ ahead effect behind, effects = ahead ++ effect :: behind → ∀ outcome,
    effect.outcome? = some outcome → outcome = expected (begunIn ahead).length

section

variable {expected : Nat → Outcome} {effects more : List Effect}

theorem Tells.append (h : Tells expected effects)
    (tell : ∀ ahead effect behind, more = ahead ++ effect :: behind → ∀ outcome,
      effect.outcome? = some outcome →
        outcome = expected (begunIn effects ++ begunIn ahead).length) :
    Tells expected (effects ++ more) := by
  refine Throughout.append h fun ahead effect behind cut outcome told => ?_
  rw [begunIn_append]
  exact tell ahead effect behind cut outcome told

/-- Effects that tell no outcome. -/
theorem Tells.append_quiet (h : Tells expected effects)
    (quiet : ∀ effect ∈ more, effect.outcome? = none) : Tells expected (effects ++ more) := by
  refine h.append ?_
  rintro ahead effect behind rfl outcome told
  exact nomatch (quiet effect (by simp)).symm.trans told

/-- Effects that tell the outcome of the last iteration begun. -/
theorem Tells.append_settled (h : Tells expected effects) (begun : begunIn more = [])
    (tell : ∀ effect ∈ more, ∀ outcome, effect.outcome? = some outcome →
      outcome = expected (begunIn effects).length) : Tells expected (effects ++ more) := by
  refine h.append ?_
  rintro ahead effect behind rfl outcome told
  rw [begunIn_append, List.append_eq_nil_iff] at begun
  rw [begun.1, List.append_nil]
  exact tell effect (by simp) outcome told

end

/-! ## The books of a loop -/

/-- What a loop has told and counted once a number of iterations are settled by the plan. -/
structure Books (d : SimulatedDevice) (intent : Intent) (effects : List Effect) (l : Loop)
    (count : Nat) : Prop where
  intended : l.intent = intent
  begun : begunIn effects = List.range' 1 l.state.iteration
  failures : l.state.consecutiveFailures = d.failuresAfter intent count
  verdicts : verdictsIn effects =
    (List.range' 1 count).map fun number => (number, d.outcomeOf intent number)
  tells : Tells (d.outcomeOf intent) effects

namespace Books

variable {d : SimulatedDevice} {intent : Intent} {effects more : List Effect} {l l' : Loop}
  {count : Nat}

/-- What begins, settles and tells nothing leaves the books as they are. -/
theorem append (h : Books d intent effects l count) (same : Loop.SameBooks l l')
    (begun : begunIn more = []) (settled : verdictsIn more = [])
    (quiet : ∀ effect ∈ more, effect.outcome? = none) :
    Books d intent (effects ++ more) l' count where
  intended := same.intent.trans h.intended
  begun := by
    rw [begunIn_append, begun, List.append_nil, same.iteration]
    exact h.begun
  failures := same.failures.trans h.failures
  verdicts := by
    rw [verdictsIn_append, settled, List.append_nil]
    exact h.verdicts
  tells := h.tells.append_quiet quiet

theorem congr (h : Books d intent effects l count) (same : Loop.SameBooks l l') :
    Books d intent effects l' count :=
  ⟨same.intent.trans h.intended, by rw [same.iteration]; exact h.begun,
    same.failures.trans h.failures, h.verdicts, h.tells⟩

theorem idle (h : Books d intent effects l count) (same : Loop.SameBooks l l') (idle : Idle more) :
    Books d intent (effects ++ more) l' count :=
  h.append same idle.begunIn_eq idle.verdictsIn_eq fun effect member =>
    (Effect.of_isIdle (idle effect member)).2.2.1

/-- An iteration is begun. -/
theorem begin (h : Books d intent effects l count) (cause : Cause) :
    Books d intent (effects ++ (l.startIteration cause).2) (l.startIteration cause).1 count where
  intended := h.intended
  begun := by
    rw [begunIn_append, h.begun]
    show List.range' 1 l.state.iteration ++ [l.state.iteration + 1] =
      List.range' 1 (l.state.iteration + 1)
    rw [List.range'_1_concat, Nat.add_comm]
  failures := h.failures
  verdicts := by
    rw [verdictsIn_append, h.verdicts]
    simp [Loop.startIteration]
  tells := h.tells.append_quiet (by simp [Loop.startIteration])

/-- An iteration is settled by the plan. -/
theorem settle {cause : Cause} {verdict : Verdict} (h : Books d intent effects l count)
    (number : l.state.iteration = count + 1)
    (outcome : verdict.outcome = d.outcomeOf intent (count + 1))
    (counted : (l.judged verdict).state.consecutiveFailures = d.failuresAfter intent (count + 1)) :
    Books d intent (effects ++ l.told cause verdict) (l.judged verdict) (count + 1) where
  intended := Loop.judged_intent.trans h.intended
  begun := by
    rw [begunIn_append, Loop.begunIn_told, List.append_nil, Loop.judged_iteration]
    exact h.begun
  failures := counted
  verdicts := by
    rw [verdictsIn_append, h.verdicts, Loop.verdictsIn_told, List.range'_1_concat, List.map_append,
      Nat.add_comm 1 count, number, outcome]
    rfl
  tells := by
    have last : (begunIn effects).length = count + 1 := by
      rw [h.begun, List.length_range', number]
    refine h.tells.append_settled Loop.begunIn_told fun effect member outcome' told => ?_
    rw [last, ← outcome]
    exact Loop.outcome?_of_mem_told member told

end Books

/-! ## Timelines by the plan -/

namespace Timeline

/--
The loop and its device are where the plan has them: between two iterations, or in one whose call
has been answered at once.
-/
inductive Follows (d : SimulatedDevice) (intent : Intent) (t : Timeline SimulatedDevice) : Prop where
  | rests {count : Nat} (books : Books d intent t.effects t.loop count)
      (free : t.loop.point.cause? = none) (number : t.loop.state.iteration = count)
      (summary : t.loop.summary = d.summaryAfter intent count)
      (device : t.device = d.deviceAfter intent count)
  | reads {count : Nat} {cause : Cause} (books : Books d intent t.effects t.loop count)
      (point : t.loop.point = .reading cause) (number : t.loop.state.iteration = count + 1)
      (summary : t.loop.summary = { d.summaryAfter intent count with iterations := count + 1 })
      (device : t.device = d.deviceAfter intent count)
      (call : t.call = some ⟨t.now, .ok (d.deviceAfter intent count).state⟩)
  | refused {count : Nat} {cause : Cause} {limit : Tick} {error : EnforcementError}
      (books : Books d intent t.effects t.loop count)
      (point : t.loop.point = .applying cause limit) (number : t.loop.state.iteration = count + 1)
      (summary : t.loop.summary = { d.summaryAfter intent count with iterations := count + 1 })
      (drifted : d.state ≠ intent.state) (early : count < d.rejectsRemaining)
      (device : t.device = d.deviceAfter intent (count + 1))
      (inTime : t.now ≤ limit) (call : t.call = some ⟨t.now, .error error⟩)
  | taken {cause : Cause} {limit : Tick}
      (books : Books d intent t.effects t.loop d.rejectsRemaining)
      (point : t.loop.point = .applying cause limit)
      (number : t.loop.state.iteration = d.rejectsRemaining + 1)
      (summary : t.loop.summary =
        { d.summaryAfter intent d.rejectsRemaining with iterations := d.rejectsRemaining + 1 })
      (drifted : d.state ≠ intent.state)
      (device : t.device = d.deviceAfter intent d.rejectsRemaining)
      (inTime : t.now ≤ limit) (call : t.call = some ⟨t.now, .ok intent.state⟩)

namespace Follows

variable {d : SimulatedDevice} {intent : Intent} {t : Timeline SimulatedDevice}

/-- The read at the start of an iteration is answered at once. -/
theorem performAll_start (l : Loop) (cause : Cause) :
    (t.performAll (l.startIteration cause).2).device = t.device ∧
      (t.performAll (l.startIteration cause).2).call = some ⟨t.now, .ok t.device.state⟩ := by
  refine ⟨rfl, ?_⟩
  show some (⟨t.now.sleepEnd .zero, .ok t.device.state⟩ : Call) = _
  rw [Tick.sleepEnd_zero]

/-- An iteration that is begun by the plan. -/
theorem of_begin {l : Loop} {cause : Cause} {count : Nat} (books : Books d intent t.effects l count)
    (number : l.state.iteration = count) (summary : l.summary = d.summaryAfter intent count)
    (device : t.device = d.deviceAfter intent count) (loop : t.loop = (l.startIteration cause).1) :
    Follows d intent (t.performAll (l.startIteration cause).2) := by
  obtain ⟨device', call'⟩ := performAll_start (t := t) l cause
  have loop' : (t.performAll (l.startIteration cause).2).loop = (l.startIteration cause).1 := by
    rw [performAll_loop, loop]
  have books' : Books d intent (t.performAll (l.startIteration cause).2).effects
      (t.performAll (l.startIteration cause).2).loop count := by
    rw [effects_performAll, loop']
    exact books.begin cause
  have point : (t.performAll (l.startIteration cause).2).loop.point = .reading cause := by
    rw [loop']
    rfl
  refine .reads books' point ?_ ?_ (device'.trans device) ?_
  · rw [loop']
    exact congrArg (· + 1) number
  · rw [loop']
    show ({ l.summary with iterations := l.summary.iterations + 1 } : Summary) = _
    rw [summary, SimulatedDevice.summaryAfter_iterations]
  · rw [call', device, performAll_now]

/-- Outside an iteration a loop by the plan goes on by the plan. -/
theorem of_proceeds {l : Loop} {count : Nat} {result : Loop × List Effect}
    (books : Books d intent t.effects l count) (number : l.state.iteration = count)
    (summary : l.summary = d.summaryAfter intent count)
    (device : t.device = d.deviceAfter intent count) (h : l.Proceeds result)
    (loop : t.loop = result.1) : Follows d intent (t.performAll result.2) := by
  cases h with
  | @rests l' effects same free idle =>
    refine .rests ?_ ?_ ?_ ?_ ((performAll_idle idle).1.trans device)
    · rw [effects_performAll, performAll_loop, loop]
      exact books.idle same idle
    · rw [performAll_loop, loop]
      exact free
    · rw [performAll_loop, loop]
      exact same.iteration.trans number
    · rw [performAll_loop, loop]
      exact same.summary.trans summary
  | @begins l' effects cause same idle =>
    rw [performAll_append]
    refine of_begin ?_ (same.iteration.trans number) (same.summary.trans summary)
      ((performAll_idle idle).1.trans device) ((performAll_loop _).trans loop)
    rw [effects_performAll]
    exact books.idle same idle

/-- Between two iterations, whatever the loop is given. -/
theorem feed_of_free {count : Nat} (books : Books d intent t.effects t.loop count)
    (free : t.loop.point.cause? = none) (number : t.loop.state.iteration = count)
    (summary : t.loop.summary = d.summaryAfter intent count)
    (device : t.device = d.deviceAfter intent count) (stimulus : Stimulus) :
    Follows d intent (t.feed stimulus) := by
  rcases t.feed_cases stimulus with same | ⟨loop, effects, taken, fed⟩
  · rw [same]
    exact .rests books free number summary device
  · have proceeds := (Loop.transition_of_step taken).proceeds free
    have books' : Books d intent { t with loop }.effects t.loop count := books
    rw [fed]
    exact of_proceeds books' number summary device proceeds rfl

/-- In an iteration, what leaves the loop, its call and the clock as they are. -/
theorem of_still {u : Timeline SimulatedDevice} {more : List Effect} (h : Follows d intent t)
    (same : Loop.SameBooks t.loop u.loop) (point : u.loop.point = t.loop.point)
    (effects : u.effects = t.effects ++ more) (idle : Idle more) (device : u.device = t.device)
    (call : u.call = t.call) (now : u.now = t.now) : Follows d intent u := by
  cases h with
  | rests books free number summary device' =>
    have books' := books.idle same idle
    rw [← effects] at books'
    exact .rests books' (by rw [point]; exact free) (same.iteration.trans number)
      (same.summary.trans summary) (device.trans device')
  | reads books point' number summary device' call' =>
    have books' := books.idle same idle
    rw [← effects] at books'
    exact .reads books' (point.trans point') (same.iteration.trans number)
      (same.summary.trans summary) (device.trans device') (by rw [call, now]; exact call')
  | refused books point' number summary drifted early device' inTime call' =>
    have books' := books.idle same idle
    rw [← effects] at books'
    exact .refused books' (point.trans point') (same.iteration.trans number)
      (same.summary.trans summary) drifted early (device.trans device') (by rw [now]; exact inTime)
      (by rw [call, now]; exact call')
  | taken books point' number summary drifted device' inTime call' =>
    have books' := books.idle same idle
    rw [← effects] at books'
    exact .taken books' (point.trans point') (same.iteration.trans number)
      (same.summary.trans summary) drifted (device.trans device') (by rw [now]; exact inTime)
      (by rw [call, now]; exact call')

/-- What others do at a timeline by the plan. -/
theorem feed {stimulus : Stimulus} (h : Follows d intent t) (outside : stimulus.isOutside = true) :
    Follows d intent (t.feed stimulus) := by
  -- In an iteration, the queue and the handles are all that others can change.
  have busy {cause : Cause} (at_ : t.loop.point.cause? = some cause) :
      Follows d intent (t.feed stimulus) := by
    rcases t.feed_cases stimulus with same | ⟨loop, effects, taken, fed⟩
    · rw [same]
      exact h
    · obtain ⟨same, point, idle, -⟩ := (Loop.transition_of_step taken).outside outside at_
      obtain ⟨device, call⟩ := performAll_idle (t := { t with loop }) idle
      rw [fed]
      exact h.of_still (by rw [performAll_loop]; exact same) (by rw [performAll_loop]; exact point)
        (effects_performAll _) idle device call (performAll_now _)
  cases h with
  | rests books free number summary device => exact feed_of_free books free number summary device _
  | reads books point => exact busy (by rw [point]; rfl)
  | refused books point => exact busy (by rw [point]; rfl)
  | taken books point => exact busy (by rw [point]; rfl)

/-- The end of an iteration by the plan. -/
theorem of_conclude {l : Loop} {cause : Cause} {verdict : Verdict} {count : Nat}
    (books : Books d intent t.effects l count) (number : l.state.iteration = count + 1)
    (outcome : verdict.outcome = d.outcomeOf intent (count + 1))
    (counted : (l.judged verdict).state.consecutiveFailures = d.failuresAfter intent (count + 1))
    (summary : (l.judged verdict).summary = d.summaryAfter intent (count + 1))
    (device : t.device = d.deviceAfter intent (count + 1))
    (loop : t.loop = (l.conclude t.now cause verdict).1) :
    Follows d intent (t.performAll (l.conclude t.now cause verdict).2) := by
  have books' : Books d intent (t.performAll (l.told cause verdict)).effects (l.judged verdict)
      (count + 1) := by
    rw [effects_performAll]
    exact books.settle number outcome counted
  have device' : (t.performAll (l.told cause verdict)).device = t.device :=
    (performAll_of_quiet fun effect member => Loop.isCall_of_mem_told member).1
  rw [Loop.conclude_eq] at loop ⊢
  rw [performAll_append]
  exact of_proceeds books' (Loop.judged_iteration.trans number) summary
    (device'.trans device) (Loop.proceeds_goOn cause)
    ((performAll_loop _).trans loop)

/-! ## Answers by the plan -/

/-- A device that is as intended is found so. -/
theorem answer_of_compliant {cause : Cause} {count : Nat}
    (books : Books d intent t.effects t.loop count) (point : t.loop.point = .reading cause)
    (number : t.loop.state.iteration = count + 1)
    (summary : t.loop.summary = { d.summaryAfter intent count with iterations := count + 1 })
    (device : t.device = d.deviceAfter intent count)
    (settled : d.state = intent.state ∨ d.rejectsRemaining < count) :
    Follows d intent (t.feed (.readAnswered (.ok (d.deviceAfter intent count).state))) := by
  obtain ⟨outcome, failures, summary', device'⟩ := SimulatedDevice.plan_of_compliant settled
  have same : isCompliant t.loop.intent (d.deviceAfter intent count).state = true := by
    rw [isCompliant_iff, books.intended]
    exact SimulatedDevice.state_deviceAfter.mpr settled
  rw [feed_of_step (Loop.step_of_judges (.compliant point same))]
  exact of_conclude (t := { t with loop := _ }) books number outcome.symm
    (books.failures.trans failures.symm) (summary.trans summary'.symm)
    (device.trans device'.symm) rfl

/-- The apply at the end of a read is answered at once. -/
theorem performAll_drift (number : Nat) (fields : List FieldDrift) (intent : Intent) :
    (t.performAll [.report (.drift number fields), .apply intent]).device =
        (t.device.startApply intent).1 ∧
      (t.performAll [.report (.drift number fields), .apply intent]).call =
        some ⟨t.now.sleepEnd (t.device.startApply intent).2.delay,
          (t.device.startApply intent).2.result⟩ :=
  ⟨rfl, rfl⟩

/-- A device that has drifted refuses the intent as often as planned, and then takes it. -/
theorem of_drift {cause : Cause} {limit : Tick} {count number : Nat} {fields : List FieldDrift}
    {given : Intent} (same : given = intent) (books : Books d intent t.effects t.loop count)
    (point : t.loop.point = .applying cause limit) (counted : t.loop.state.iteration = count + 1)
    (summary : t.loop.summary = { d.summaryAfter intent count with iterations := count + 1 })
    (device : t.device = d.deviceAfter intent count) (drifted : d.state ≠ intent.state)
    (left : count ≤ d.rejectsRemaining) (inTime : t.now ≤ limit) :
    Follows d intent (t.performAll [.report (.drift number fields), .apply given]) := by
  subst same
  obtain ⟨device', call'⟩ := performAll_drift (t := t) number fields given
  have rejects : t.device.rejectsRemaining = d.rejectsRemaining - count := by
    rw [device, SimulatedDevice.rejectsRemaining_deviceAfter drifted]
  generalize applied : t.performAll [.report (.drift number fields), .apply given] = u
    at device' call'
  have loop : u.loop = t.loop := by rw [← applied, performAll_loop]
  have now : u.now = t.now := by rw [← applied, performAll_now]
  have books' : Books d given u.effects u.loop count := by
    rw [loop, ← applied, effects_performAll]
    exact books.append (.refl _) rfl rfl (by simp)
  have inTime' : u.now ≤ limit := by rw [now]; exact inTime
  rw [← loop] at point counted summary
  -- While refusals are left the device uses one up; the apply behind the last of them is taken.
  rcases Nat.lt_or_eq_of_le left with early | last
  · have more : t.device.rejectsRemaining = d.rejectsRemaining - (count + 1) + 1 := by omega
    obtain ⟨error, refuses⟩ := SimulatedDevice.startApply_of_refused given more
    obtain ⟨-, -, -, planned⟩ := SimulatedDevice.plan_of_refused drifted early
    simp only [refuses, Tick.sleepEnd_zero, ← now] at device' call'
    refine .refused books' point counted summary drifted early ?_ inTime' call'
    rw [device', planned, device]
  · subst last
    have none : t.device.rejectsRemaining = 0 := by omega
    simp only [SimulatedDevice.startApply_of_taken given none, Tick.sleepEnd_zero, ← now]
      at device' call'
    exact .taken books' point counted summary drifted (device'.trans device) inTime' call'

theorem answer_of_drifted {cause : Cause} {count : Nat}
    (books : Books d intent t.effects t.loop count) (point : t.loop.point = .reading cause)
    (number : t.loop.state.iteration = count + 1)
    (summary : t.loop.summary = { d.summaryAfter intent count with iterations := count + 1 })
    (device : t.device = d.deviceAfter intent count) (drifted : d.state ≠ intent.state)
    (left : count ≤ d.rejectsRemaining) :
    Follows d intent (t.feed (.readAnswered (.ok (d.deviceAfter intent count).state))) := by
  have differs : isCompliant t.loop.intent (d.deviceAfter intent count).state = false := by
    rw [Bool.eq_false_iff, Ne, isCompliant_iff, books.intended, SimulatedDevice.state_deviceAfter]
    rintro (same | late)
    · exact drifted same
    · exact absurd late (Nat.not_lt.mpr left)
  rw [feed_of_step (Loop.step_of_drifted point differs)]
  exact of_drift (t := { t with loop := _ }) books.intended (books.congr ⟨rfl, rfl, rfl, rfl, rfl⟩) rfl
    number summary device drifted left (Tick.le_sleepEnd _ _)

/-- A refusal is a failed apply. -/
theorem answer_of_refused {cause : Cause} {limit : Tick} {error : EnforcementError} {count : Nat}
    (books : Books d intent t.effects t.loop count) (point : t.loop.point = .applying cause limit)
    (number : t.loop.state.iteration = count + 1)
    (summary : t.loop.summary = { d.summaryAfter intent count with iterations := count + 1 })
    (drifted : d.state ≠ intent.state) (early : count < d.rejectsRemaining)
    (device : t.device = d.deviceAfter intent (count + 1)) (inTime : t.now ≤ limit) :
    Follows d intent (t.feed (.applyAnswered (.error error))) := by
  obtain ⟨outcome, failures, summary', -⟩ := SimulatedDevice.plan_of_refused drifted early
  rw [feed_of_step (Loop.step_of_judges (.failed point inTime))]
  refine of_conclude (t := { t with loop := _ }) books number outcome.symm ?_ ?_ device rfl
  · rw [failures, ← books.failures]
    rfl
  · show ({ t.loop.summary with applyFailures := t.loop.summary.applyFailures + 1 } : Summary) = _
    rw [summary, summary']

/-- The apply that is taken leaves the device as intended. -/
theorem answer_of_taken {cause : Cause} {limit : Tick}
    (books : Books d intent t.effects t.loop d.rejectsRemaining)
    (point : t.loop.point = .applying cause limit)
    (number : t.loop.state.iteration = d.rejectsRemaining + 1)
    (summary : t.loop.summary =
      { d.summaryAfter intent d.rejectsRemaining with iterations := d.rejectsRemaining + 1 })
    (drifted : d.state ≠ intent.state)
    (device : t.device = d.deviceAfter intent (d.rejectsRemaining + 1)) (inTime : t.now ≤ limit) :
    Follows d intent (t.feed (.applyAnswered (.ok intent.state))) := by
  obtain ⟨outcome, failures, summary', -⟩ := SimulatedDevice.plan_of_taken drifted
  rw [feed_of_step (Loop.step_of_judges (.applied point inTime))]
  refine of_conclude (t := { t with loop := _ }) books number outcome.symm failures.symm ?_ device
    rfl
  show ({ t.loop.summary with applies := t.loop.summary.applies + 1 } : Summary) = _
  rw [summary, summary']

/-- Whatever is due next, a timeline by the plan goes on by the plan. -/
theorem happen {messageFirst : Tick → Bool} {due : Tick} {what : Due} (h : Follows d intent t)
    (next : t.next? messageFirst = some (due, what)) :
    Follows d intent ({ t with now := max t.now due }.happen what) := by
  -- In an iteration the call has been answered at once, so that no time passes.
  cases h with
  | rests books free number summary device =>
    rcases due_of_free free next with rfl | rfl
    · exact feed_of_free (t := { t with now := max t.now due, call := none }) books free number
        summary device .timeUp
    · exact feed_of_free (t := { t with now := max t.now due }) books free number summary device
        .receive
  | @reads count cause books point number summary device call =>
    cases (next?_of_reading point call).symm.trans next
    rw [Nat.max_self]
    simp only [Timeline.happen, answer, point]
    by_cases settled : d.state = intent.state ∨ d.rejectsRemaining < count
    · exact answer_of_compliant (t := { t with call := none }) books point number summary device
        settled
    · rw [not_or, Nat.not_lt] at settled
      exact answer_of_drifted (t := { t with call := none }) books point number summary device
        settled.1 settled.2
  | refused books point number summary drifted early device inTime call =>
    cases (next?_of_applying point call inTime).symm.trans next
    rw [Nat.max_self]
    simp only [Timeline.happen, answer, point]
    exact answer_of_refused (t := { t with call := none }) books point number summary drifted early
      device inTime
  | taken books point number summary drifted device inTime call =>
    cases (next?_of_applying point call inTime).symm.trans next
    obtain ⟨-, -, -, planned⟩ := SimulatedDevice.plan_of_taken drifted
    rw [Nat.max_self]
    simp only [Timeline.happen, answer, point]
    refine answer_of_taken (t := { t with call := none, device := _ }) books point number summary
      drifted ?_ inTime
    show ({ t.device with state := t.loop.intent.state } : SimulatedDevice) = _
    rw [planned, books.intended, device]

end Follows

/-! ## Every schedule -/

namespace Follows

variable {d : SimulatedDevice} {intent : Intent} {t u : Timeline SimulatedDevice}

theorem create (d : SimulatedDevice) (intent : Intent) (options : LoopOptions) :
    Follows d intent (.create d intent options) := by
  have books : Books d intent [] (Timeline.create d intent options).loop 0 := by
    refine ⟨rfl, rfl, ?_, rfl, ?_⟩
    · simp [SimulatedDevice.failuresAfter, Timeline.create]
    · intro ahead effect behind cut
      simp at cut
  refine .rests books rfl rfl ?_ ?_
  · simp [SimulatedDevice.summaryAfter, Timeline.create]
  · simp [SimulatedDevice.deviceAfter, Timeline.create]

theorem pass {now : Tick} (h : Follows d intent t) (forward : t.now ≤ now)
    (inTime : ∀ messageFirst due what, t.next? messageFirst = some (due, what) →
      now ≤ max t.now due) : Follows d intent { t with now } := by
  have still {what : Due} (next : t.next? (fun _ => false) = some (t.now, what)) : now = t.now := by
    have atMost := inTime _ _ _ next
    rw [Nat.max_self] at atMost
    exact Nat.le_antisymm atMost forward
  cases h with
  | rests books free number summary device => exact .rests books free number summary device
  | reads books point number summary device call =>
    rw [still (next?_of_reading point call)]
    exact .reads books point number summary device call
  | refused books point number summary drifted early device limit call =>
    rw [still (next?_of_applying point call limit)]
    exact .refused books point number summary drifted early device limit call
  | taken books point number summary drifted device limit call =>
    rw [still (next?_of_applying point call limit)]
    exact .taken books point number summary drifted device limit call

/-- Whatever is done with the loop, as long as nobody changes the device, goes by the plan. -/
theorem of_reaches (h : Follows d intent t) (reaches : Reaches t u) : Follows d intent u := by
  induction reaches with
  | start => exact h
  | feed earlier outside ih => exact ih.feed outside
  | pass earlier forward inTime ih => exact ih.pass forward inTime
  | happen earlier next ih => exact ih.happen next

/-- Between two iterations, the loop and its device are where the plan has them. -/
theorem of_free (h : Follows d intent t) (free : t.loop.point.cause? = none) :
    Books d intent t.effects t.loop t.loop.state.iteration ∧
      t.loop.summary = d.summaryAfter intent t.loop.state.iteration ∧
      t.device = d.deviceAfter intent t.loop.state.iteration := by
  cases h with
  | rests books free number summary device => exact number.symm ▸ ⟨books, summary, device⟩
  | reads books point => rw [point] at free; cases free
  | refused books point => rw [point] at free; cases free
  | taken books point => rw [point] at free; cases free

/-- Iterations are numbered from one, and whoever is told an outcome is told the planned one. -/
theorem told (h : Follows d intent t) :
    begunIn t.effects = List.range' 1 t.loop.state.iteration ∧
      Tells (d.outcomeOf intent) t.effects := by
  cases h with
  | rests books => exact ⟨books.begun, books.tells⟩
  | reads books => exact ⟨books.begun, books.tells⟩
  | refused books => exact ⟨books.begun, books.tells⟩
  | taken books => exact ⟨books.begun, books.tells⟩

/-- A read is answered at the time it was asked for. -/
theorem call_of_reading {cause : Cause} (h : Follows d intent t)
    (point : t.loop.point = .reading cause) : ∃ result, t.call = some ⟨t.now, result⟩ := by
  cases h with
  | rests books free => rw [point] at free; cases free
  | reads books point' number summary device call => exact ⟨_, call⟩
  | refused books point' => rw [point] at point'; cases point'
  | taken books point' => rw [point] at point'; cases point'

/-- An apply ends at the time it was given, and so in time. -/
theorem call_of_applying {cause : Cause} {limit : Tick} (h : Follows d intent t)
    (point : t.loop.point = .applying cause limit) :
    t.now ≤ limit ∧ ∃ result, t.call = some ⟨t.now, result⟩ := by
  cases h with
  | rests books free => rw [point] at free; cases free
  | reads books point' => rw [point] at point'; cases point'
  | refused books point' number summary drifted early device inTime call =>
    cases point.symm.trans point'
    exact ⟨inTime, _, call⟩
  | taken books point' number summary drifted device inTime call =>
    cases point.symm.trans point'
    exact ⟨inTime, _, call⟩

/-- In an iteration, all before it are settled. -/
theorem of_busy {cause : Cause} (h : Follows d intent t) (busy : t.loop.point.cause? = some cause) :
    Books d intent t.effects t.loop (t.loop.state.iteration - 1) := by
  cases h with
  | rests books free => exact nomatch free.symm.trans busy
  | reads books point number => rw [number]; exact books
  | refused books point number => rw [number]; exact books
  | taken books point number => rw [number]; exact books

end Follows

end Timeline

end ClosedLoop
