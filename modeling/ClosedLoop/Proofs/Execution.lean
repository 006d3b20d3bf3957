import ClosedLoop.Loop

/-!
# Executions of a loop

An execution is what a loop goes through in the hands of some device, some clock and any number of
handles: a list of moves, each of them one step under one stimulus. Nothing is said about where the
stimuli come from, so that what holds of every execution holds for every device and every schedule.

* `Loop.Transition` says once what a step can do, and `Loop.transition_of_step` that a step does
  nothing else
* `Loop.Continues` says what a loop can go on with between two iterations
* `Execution.begun_eq` — iterations are numbered one after the other
-/

namespace ClosedLoop

/-! ## Verdicts -/

/-- What the work of an iteration comes to. -/
inductive Verdict where
  | unread (error : EnforcementError)
  | compliant (observed : OperationalState)
  | applied (state : OperationalState)
  | failed (error : EnforcementError)

namespace Verdict

def outcome : Verdict → Outcome
  | unread _ => .stateUnknown
  | compliant _ => .compliant
  | applied _ => .converged
  | failed _ => .applyFailed

/-- The report of a verdict on an iteration, with the failures in a row behind it. -/
def event (number failures : Nat) : Verdict → Event
  | unread error => .readFailed number error
  | compliant observed => .compliant number observed
  | applied state => .applied number state
  | failed error => .applyFailed number error failures

end Verdict

/-- The iteration that an event settles, and how. -/
@[simp] def Event.verdict? : Event → Option (Nat × Outcome)
  | .readFailed number _ => some (number, .stateUnknown)
  | .compliant number _ => some (number, .compliant)
  | .applied number _ => some (number, .converged)
  | .applyFailed number _ _ => some (number, .applyFailed)
  | _ => none

@[simp] theorem Verdict.verdict?_event (number failures : Nat) (verdict : Verdict) :
    (verdict.event number failures).verdict? = some (number, verdict.outcome) := by
  cases verdict <;> rfl

/-- The request that an iteration is run for. -/
def Cause.request? : Cause → Option Nat
  | .direct | .regular => none
  | .drained request | .awaited request => some request

/-- What the end of an iteration tells the one it was run for. -/
def Cause.answer (outcome : Outcome) : Cause → List Effect
  | .direct => [.returned outcome]
  | .regular => []
  | .drained request | .awaited request => [.reply request (.ok outcome)]

/-- Why the iteration in progress is run. -/
def Point.cause? : Point → Option Cause
  | .reading cause | .applying cause _ => some cause
  | _ => none

/-- The request of the iteration in progress. -/
def Point.request? (point : Point) : Option Nat :=
  point.cause?.bind Cause.request?

def Message.request? : Message → Option Nat
  | .reconcile request => some request
  | .shutdown => none

/-! ## Views of effects -/

namespace Effect

/-- The message that a handle has sent. -/
@[simp] def sent? : Effect → Option Message
  | .accepted message | .refused message => some message
  | _ => none

@[simp] def reply? : Effect → Option (Nat × Except EnforcementError Outcome)
  | .reply request result => some (request, result)
  | _ => none

/-- The iteration that begins. -/
@[simp] def begun? : Effect → Option Nat
  | .report (.iteration number) => some number
  | _ => none

/-- The iteration that is settled, and how. -/
@[simp] def verdict? : Effect → Option (Nat × Outcome)
  | .report event => event.verdict?
  | _ => none

/-- The outcome that is told, by the report that settles an iteration or by an answer. -/
@[simp] def outcome? : Effect → Option Outcome
  | .report event => event.verdict?.map Prod.snd
  | .returned outcome | .reply _ (.ok outcome) => some outcome
  | _ => none

/-- A call of the device. -/
@[simp] def isCall : Effect → Bool
  | .read | .apply _ => true
  | _ => false

end Effect

/-- The messages sent, in the order of their arrival. -/
abbrev sentIn (effects : List Effect) : List Message :=
  effects.filterMap Effect.sent?

/-- The answers to requests, in the order in which they are given. -/
abbrev repliesIn (effects : List Effect) : List (Nat × Except EnforcementError Outcome) :=
  effects.filterMap Effect.reply?

/-- The numbers of the iterations begun. -/
abbrev begunIn (effects : List Effect) : List Nat :=
  effects.filterMap Effect.begun?

/-- The iterations settled, with their outcomes. -/
abbrev verdictsIn (effects : List Effect) : List (Nat × Outcome) :=
  effects.filterMap Effect.verdict?

/-- The requests among messages. -/
abbrev requestsIn (messages : List Message) : List Nat :=
  messages.filterMap Message.request?

section

variable (effects effects' : List Effect)

theorem sentIn_append : sentIn (effects ++ effects') = sentIn effects ++ sentIn effects' :=
  List.filterMap_append

theorem repliesIn_append :
    repliesIn (effects ++ effects') = repliesIn effects ++ repliesIn effects' :=
  List.filterMap_append

theorem begunIn_append : begunIn (effects ++ effects') = begunIn effects ++ begunIn effects' :=
  List.filterMap_append

theorem verdictsIn_append :
    verdictsIn (effects ++ effects') = verdictsIn effects ++ verdictsIn effects' :=
  List.filterMap_append

end

theorem requestsIn_append (messages messages' : List Message) :
    requestsIn (messages ++ messages') = requestsIn messages ++ requestsIn messages' :=
  List.filterMap_append

theorem requestsIn_reconcile (requests : List Nat) :
    requestsIn (requests.map .reconcile) = requests := by
  simp [List.filterMap_map, Function.comp_def, Message.request?]

attribute [local simp] List.filterMap_cons

namespace Cause

variable (cause : Cause) (outcome : Outcome)

@[simp] theorem sentIn_answer : sentIn (cause.answer outcome) = [] := by cases cause <;> rfl

@[simp] theorem begunIn_answer : begunIn (cause.answer outcome) = [] := by cases cause <;> rfl

@[simp] theorem verdictsIn_answer : verdictsIn (cause.answer outcome) = [] := by cases cause <;> rfl

@[simp] theorem repliesIn_answer :
    repliesIn (cause.answer outcome) =
      cause.request?.toList.map fun request => (request, .ok outcome) := by
  cases cause <;> rfl

theorem outcome?_of_mem_answer {effect : Effect} (h : effect ∈ cause.answer outcome) :
    effect.outcome? = some outcome := by
  cases cause with
  | regular => cases h
  | _ =>
    cases List.mem_singleton.mp h
    rfl

/-- Settling an iteration begins none. -/
theorem begunIn_settled (verdict : Verdict) (number failures : Nat) :
    begunIn (.report (verdict.event number failures) :: cause.answer outcome) = [] := by
  cases verdict <;> simp [Verdict.event]

/-- Settling an iteration settles no other. -/
theorem verdictsIn_settled (verdict : Verdict) (number failures : Nat) :
    verdictsIn (.report (verdict.event number failures) :: cause.answer outcome) =
      [(number, verdict.outcome)] := by
  have told : (Effect.report (verdict.event number failures)).verdict? =
      some (number, verdict.outcome) := verdict.verdict?_event _ _
  rw [verdictsIn, List.filterMap_cons_some told,
    show List.filterMap Effect.verdict? _ = [] from cause.verdictsIn_answer outcome]

end Cause

/-- The message that a stimulus brings. -/
@[simp] def Stimulus.message? : Stimulus → Option Message
  | .send message => some message
  | _ => none

/-- A stimulus from those who call the loop or hold handles. -/
@[simp] def Stimulus.isOutside : Stimulus → Bool
  | .iterate | .run | .send _ | .handleMade | .handleDropped => true
  | _ => false

namespace Loop

theorem unanswered_eq (messages : List Message) :
    unanswered messages =
      (requestsIn messages).map fun request => .reply request (.error .channelClosed) := by
  induction messages with
  | nil => rfl
  | cons first rest ih =>
    cases first with
    | reconcile request => exact congrArg _ ih
    | shutdown => exact ih

variable (messages : List Message)

@[simp] theorem sentIn_unanswered : sentIn (unanswered messages) = [] := by
  rw [unanswered_eq]
  simp

@[simp] theorem begunIn_unanswered : begunIn (unanswered messages) = [] := by
  rw [unanswered_eq]
  simp

@[simp] theorem verdictsIn_unanswered : verdictsIn (unanswered messages) = [] := by
  rw [unanswered_eq]
  simp

@[simp] theorem repliesIn_unanswered :
    repliesIn (unanswered messages) =
      (requestsIn messages).map fun request => (request, .error .channelClosed) := by
  rw [unanswered_eq]
  simp [List.filterMap_map, Function.comp_def]

/-- Answers report nothing. -/
theorem report_not_mem_unanswered (event : Event) : .report event ∉ unanswered messages := by
  intro member
  rw [unanswered_eq] at member
  obtain ⟨request, -, same⟩ := List.mem_map.mp member
  cases same

end Loop

namespace Loop

variable {l : Loop} {now : Tick} {cause : Cause} {verdict : Verdict} {stimulus : Stimulus}

/-! ## The end of an iteration -/

/-- The loop as the work of an iteration leaves it. -/
def judged (l : Loop) : Verdict → Loop
  | .unread _ =>
    { l with
      state := l.state.finishIteration
      summary := { l.summary with readFailures := l.summary.readFailures + 1 } }
  | .compliant _ => { l with state := l.state.finishIteration }
  | .applied _ =>
    { l with
      state := l.state.recordSuccess.finishIteration
      summary := { l.summary with applies := l.summary.applies + 1 } }
  | .failed _ =>
    { l with
      state := l.state.recordFailure.finishIteration
      summary := { l.summary with applyFailures := l.summary.applyFailures + 1 } }

/-- What a loop does once the work of an iteration is done. -/
def goOn (l : Loop) (now : Tick) : Cause → Loop × List Effect
  | .direct => ({ l with point := .idle }, [])
  | .regular => if l.limitReached then l.halt [] else l.startWait now
  | .drained _ => l.turn
  | .awaited _ => if l.limitReached then l.halt [] else l.resumeWait now

/-- The end of an iteration: the verdict, the answer, and all that comes behind them. -/
def conclude (l : Loop) (now : Tick) (cause : Cause) (verdict : Verdict) : Loop × List Effect :=
  let next := (l.judged verdict).goOn now cause
  (next.1,
    .report (verdict.event l.state.iteration (l.judged verdict).state.consecutiveFailures) ::
      (cause.answer verdict.outcome ++ next.2))

@[simp] theorem judged_name : (l.judged verdict).name = l.name := by cases verdict <;> rfl

@[simp] theorem judged_intent : (l.judged verdict).intent = l.intent := by cases verdict <;> rfl

@[simp] theorem judged_options : (l.judged verdict).options = l.options := by cases verdict <;> rfl

@[simp] theorem judged_queue : (l.judged verdict).queue = l.queue := by cases verdict <;> rfl

@[simp] theorem judged_point : (l.judged verdict).point = l.point := by cases verdict <;> rfl

@[simp] theorem judged_handles : (l.judged verdict).handles = l.handles := by cases verdict <;> rfl

@[simp] theorem judged_keepsSender : (l.judged verdict).keepsSender = l.keepsSender := by
  cases verdict <;> rfl

@[simp] theorem judged_iteration : (l.judged verdict).state.iteration = l.state.iteration := by
  cases verdict <;> rfl

@[simp] theorem judged_iterations :
    (l.judged verdict).summary.iterations = l.summary.iterations := by
  cases verdict <;> rfl

theorem observe_error (error : EnforcementError) :
    l.observe now cause (.error error) = l.conclude now cause (.unread error) := by
  cases cause <;> rfl

theorem observe_of_compliant {observed : OperationalState}
    (h : isCompliant l.intent observed = true) :
    l.observe now cause (.ok observed) = l.conclude now cause (.compliant observed) := by
  rw [observe, if_pos h]
  cases cause <;> rfl

theorem observe_of_drifted {observed : OperationalState}
    (h : isCompliant l.intent observed = false) :
    l.observe now cause (.ok observed) =
      ({ l with
          state := l.state.startApplying
          point := .applying cause (now.sleepEnd l.options.applyTimeout) },
        [.report (.drift l.state.iteration (detectDrift l.intent observed)), .apply l.intent]) := by
  rw [observe, if_neg (by simp [h])]

theorem settle_ok (applied : OperationalState) :
    l.settle now cause (.ok applied) = l.conclude now cause (.applied applied) := by
  cases cause <;> rfl

theorem settle_error (error : EnforcementError) :
    l.settle now cause (.error error) = l.conclude now cause (.failed error) := by
  cases cause <;> rfl

/-! ## The limit -/

theorem limitReached_iff :
    l.limitReached = true ↔
      ∃ bound, l.options.maxIterations = some bound ∧ bound ≤ l.state.iteration := by
  unfold limitReached
  split
  · next bound some => simp [some]
  · next none => simp [none]

/-- Below the limit there is room for one more iteration. -/
theorem iteration_lt (below : l.limitReached = false) {bound : Nat}
    (some : l.options.maxIterations = some bound) : l.state.iteration < bound := by
  rcases Nat.lt_or_ge l.state.iteration bound with room | full
  · exact room
  · have reached : l.limitReached = true := limitReached_iff.mpr ⟨bound, some, full⟩
    rw [below] at reached
    cases reached

/-! ## Between two iterations -/

/--
What a loop can go on with between two iterations: `behind` is the cause of the iteration that has
ended, or `none` if the loop comes from elsewhere.
-/
inductive Continues (l : Loop) (now : Tick) : Option Cause → Loop × List Effect → Prop where
  | halt {behind : Option Cause}
      (why : l.queue.head? = some .shutdown ∨ l.limitReached = true) :
      Continues l now behind (l.halt [])
  | regular {behind : Option Cause} (empty : l.queue = []) (below : l.limitReached = false) :
      Continues l now behind (l.startIteration .regular)
  | drained {behind : Option Cause} {request : Nat} {rest : List Message}
      (queued : l.queue = .reconcile request :: rest) (below : l.limitReached = false) :
      Continues l now behind ({ l with queue := rest }.startIteration (.drained request))
  | wait (below : l.limitReached = false) :
      Continues l now (some .regular) (l.startWait now)
  | resume {request : Nat} {deadline : Tick} (below : l.limitReached = false)
      (held : now.after? l.nextDelay = some deadline) :
      Continues l now (some (.awaited request))
        ({ l with state := l.state.startWaiting, point := .waiting deadline },
          [.report (.waiting l.nextDelay)])
  | abort {request : Nat} (below : l.limitReached = false)
      (beyond : now.after? l.nextDelay = none) :
      Continues l now (some (.awaited request))
        ({ l with state := l.state.startWaiting, point := .aborted, queue := [] },
          .report (.waiting l.nextDelay) :: unanswered l.queue)

/-- Taking a shutdown, or a request beyond the limit, leaves the same messages unanswered. -/
theorem halt_taken {first : Message} {rest : List Message} (queued : l.queue = first :: rest)
    {taken : List Message} (h : unanswered (taken ++ rest) = unanswered (first :: rest)) :
    { l with queue := rest }.halt taken = l.halt [] := by
  simp only [halt, h, queued, List.nil_append]

theorem continues_turn (l : Loop) (now : Tick) (behind : Option Cause) :
    l.Continues now behind l.turn := by
  unfold turn
  split
  · next empty =>
    split
    · next limit => exact .halt (.inr limit)
    · next below => exact .regular empty (by simpa using below)
  · next rest queued =>
    rw [halt_taken queued rfl]
    exact .halt (.inl (by rw [queued]; rfl))
  · next request rest queued =>
    split
    · next limit =>
      rw [halt_taken queued rfl]
      exact .halt (.inr limit)
    · next below => exact .drained queued (by simpa using below)

theorem continues_resumeWait {request : Nat} (below : l.limitReached = false) :
    l.Continues now (some (.awaited request)) (l.resumeWait now) := by
  rw [resumeWait]
  cases held : now.after? l.nextDelay with
  | none => exact .abort below held
  | some deadline => exact .resume below held

theorem continues_goOn (h : cause ≠ .direct) : l.Continues now (some cause) (l.goOn now cause) := by
  cases cause with
  | direct => exact absurd rfl h
  | regular =>
    show l.Continues now _ (if l.limitReached then l.halt [] else l.startWait now)
    split
    · next limit => exact .halt (.inr limit)
    · next below => exact .wait (by simpa using below)
  | drained request => exact continues_turn l now (some (.drained request))
  | awaited request =>
    show l.Continues now _ (if l.limitReached then l.halt [] else l.resumeWait now)
    split
    · next limit => exact .halt (.inr limit)
    · next below =>
      exact continues_resumeWait (by simpa using below)

/-! ## Steps -/

/-- A stimulus settles the iteration in progress. -/
inductive Judges (l : Loop) (now : Tick) : Stimulus → Cause → Verdict → Prop where
  | unread {cause : Cause} {error : EnforcementError} (reading : l.point = .reading cause) :
      Judges l now (.readAnswered (.error error)) cause (.unread error)
  | compliant {cause : Cause} {observed : OperationalState} (reading : l.point = .reading cause)
      (same : isCompliant l.intent observed = true) :
      Judges l now (.readAnswered (.ok observed)) cause (.compliant observed)
  | applied {cause : Cause} {limit : Tick} {state : OperationalState}
      (applying : l.point = .applying cause limit) (inTime : now ≤ limit) :
      Judges l now (.applyAnswered (.ok state)) cause (.applied state)
  | failed {cause : Cause} {limit : Tick} {error : EnforcementError}
      (applying : l.point = .applying cause limit) (inTime : now ≤ limit) :
      Judges l now (.applyAnswered (.error error)) cause (.failed error)
  | timedOut {cause : Cause} {limit : Tick} (applying : l.point = .applying cause limit)
      (late : limit ≤ now) :
      Judges l now .timeUp cause (.failed (.applyTimeout l.options.applyTimeout))

theorem Judges.cause?_point (h : l.Judges now stimulus cause verdict) :
    l.point.cause? = some cause := by
  cases h with
  | unread reading => rw [reading]; rfl
  | compliant reading => rw [reading]; rfl
  | applied applying => rw [applying]; rfl
  | failed applying => rw [applying]; rfl
  | timedOut applying => rw [applying]; rfl

theorem step_of_judges (h : l.Judges now stimulus cause verdict) :
    l.step now stimulus = some (l.conclude now cause verdict) := by
  cases h with
  | unread reading => simp only [step, reading, observe_error]
  | compliant reading same => simp only [step, reading, observe_of_compliant same]
  | applied applying inTime => simp only [step, applying, if_pos inTime, settle_ok]
  | failed applying inTime => simp only [step, applying, if_pos inTime, settle_error]
  | timedOut applying late => simp only [step, applying, if_pos late, settle_error]

theorem step_of_drifted {observed : OperationalState} (reading : l.point = .reading cause)
    (differs : isCompliant l.intent observed = false) :
    l.step now (.readAnswered (.ok observed)) =
      some ({ l with
          state := l.state.startApplying
          point := .applying cause (now.sleepEnd l.options.applyTimeout) },
        [.report (.drift l.state.iteration (detectDrift l.intent observed)), .apply l.intent]) := by
  simp only [step, reading, observe_of_drifted differs]

/-- All that a step of a loop can do. -/
inductive Transition (l : Loop) (now : Tick) : Stimulus → Loop × List Effect → Prop where
  | iterate (idle : l.point = .idle) : Transition l now .iterate (l.startIteration .direct)
  | run (idle : l.point = .idle) :
      Transition l now .run (after (.report (.start l.name l.intent)) l.turn)
  | drift {cause : Cause} {observed : OperationalState} (reading : l.point = .reading cause)
      (differs : isCompliant l.intent observed = false) :
      Transition l now (.readAnswered (.ok observed))
        ({ l with
            state := l.state.startApplying
            point := .applying cause (now.sleepEnd l.options.applyTimeout) },
          [.report (.drift l.state.iteration (detectDrift l.intent observed)), .apply l.intent])
  | conclude {stimulus : Stimulus} {cause : Cause} {verdict : Verdict}
      (judges : l.Judges now stimulus cause verdict) :
      Transition l now stimulus (l.conclude now cause verdict)
  | ring {deadline : Tick} (waiting : l.point = .waiting deadline) (due : deadline ≤ now) :
      Transition l now .timeUp l.turn
  | desert {deadline : Tick} (waiting : l.point = .waiting deadline) (empty : l.queue = [])
      (alone : l.keepsSender = false) : Transition l now .receive (l.halt [])
  | takeShutdown {deadline : Tick} {rest : List Message} (waiting : l.point = .waiting deadline)
      (queued : l.queue = .shutdown :: rest) : Transition l now .receive (l.halt [])
  | takeRequest {deadline : Tick} {request : Nat} {rest : List Message}
      (waiting : l.point = .waiting deadline) (queued : l.queue = .reconcile request :: rest) :
      Transition l now .receive ({ l with queue := rest }.startIteration (.awaited request))
  | refuse {message : Message} (ended : l.hasEnded = true) :
      Transition l now (.send message) (l, .refused message :: unanswered [message])
  | accept {message : Message} (goes : l.hasEnded = false) :
      Transition l now (.send message)
        ({ l with queue := l.queue ++ [message] }, [.accepted message])
  | handleMade : Transition l now .handleMade ({ l with handles := l.handles + 1 }, [])
  | handleDropped : Transition l now .handleDropped ({ l with handles := l.handles - 1 }, [])

theorem transition_of_observe (reading : l.point = .reading cause)
    (result : Except EnforcementError OperationalState) :
    l.Transition now (.readAnswered result) (l.observe now cause result) := by
  cases result with
  | error error =>
    rw [observe_error]
    exact .conclude (.unread reading)
  | ok observed =>
    cases h : isCompliant l.intent observed with
    | true =>
      rw [observe_of_compliant h]
      exact .conclude (.compliant reading h)
    | false =>
      rw [observe_of_drifted h]
      exact .drift reading h

theorem transition_of_settle {limit : Tick} (applying : l.point = .applying cause limit)
    (inTime : now ≤ limit) (result : Except EnforcementError OperationalState) :
    l.Transition now (.applyAnswered result) (l.settle now cause result) := by
  cases result with
  | error error =>
    rw [settle_error]
    exact .conclude (.failed applying inTime)
  | ok state =>
    rw [settle_ok]
    exact .conclude (.applied applying inTime)

theorem transition_of_takeMessage {deadline : Tick} {result : Loop × List Effect}
    (waiting : l.point = .waiting deadline) (h : l.takeMessage = some result) :
    l.Transition now .receive result := by
  unfold takeMessage at h
  split at h
  · next empty =>
    split at h
    · next alone =>
      cases h
      simp only [Bool.and_eq_true, Bool.not_eq_true'] at alone
      exact .desert waiting empty alone.2
    · cases h
  · next rest queued =>
    cases h
    rw [halt_taken queued rfl]
    exact .takeShutdown waiting queued
  · next request rest queued =>
    cases h
    exact .takeRequest waiting queued

theorem transition_of_send (message : Message) :
    l.Transition now (.send message) (l.send message) := by
  unfold send
  split
  · next ended => exact .refuse ended
  · next goes => exact .accept (by simpa using goes)

/-- A step does nothing but what is listed. -/
theorem transition_of_step {result : Loop × List Effect}
    (h : l.step now stimulus = some result) : l.Transition now stimulus result := by
  -- One case for each stimulus; splitting its step finds the points at which it can occur.
  cases stimulus with
  | iterate =>
    simp only [step] at h
    split at h
    · next idle => cases h; exact .iterate idle
    · cases h
  | run =>
    simp only [step] at h
    split at h
    · next idle => cases h; exact .run idle
    · cases h
  | readAnswered answer =>
    simp only [step] at h
    split at h
    · next reading => cases h; exact transition_of_observe reading answer
    · cases h
  | applyAnswered answer =>
    simp only [step] at h
    split at h
    · next applying =>
      split at h
      · next inTime => cases h; exact transition_of_settle applying inTime answer
      · cases h
    · cases h
  | timeUp =>
    simp only [step] at h
    split at h
    · next applying =>
      split at h
      · next late =>
        cases h
        rw [settle_error]
        exact .conclude (.timedOut applying late)
      · cases h
    · next waiting =>
      split at h
      · next due => cases h; exact .ring waiting due
      · cases h
    · cases h
  | receive =>
    simp only [step] at h
    split at h
    · next waiting => exact transition_of_takeMessage waiting h
    · cases h
  | send message =>
    simp only [step] at h
    split at h
    · cases h
    · cases h; exact transition_of_send message
  | handleMade =>
    simp only [step] at h
    cases h
    exact .handleMade
  | handleDropped =>
    simp only [step] at h
    split at h
    · cases h
    · cases h; exact .handleDropped

theorem hasEnded_iff : l.hasEnded = true ↔ l.point = .stopped ∨ l.point = .aborted := by
  simp [hasEnded, Bool.or_eq_true, beq_iff_eq]

theorem hasEnded_congr {l' : Loop} (same : l'.point = l.point) : l'.hasEnded = l.hasEnded := by
  rw [hasEnded, hasEnded, same]

/-- A loop that has ended stays as it is, and refuses what is sent to it. -/
theorem Transition.of_ended {result : Loop × List Effect} (h : l.Transition now stimulus result)
    (ended : l.hasEnded = true) :
    result.1.point = l.point ∧ result.1.queue = l.queue ∧ result.1.state = l.state ∧
      result.1.summary = l.summary ∧
      (result.2 = [] ∨
        ∃ message, stimulus = .send message ∧
          result.2 = .refused message :: unanswered [message]) := by
  have point := hasEnded_iff.mp ended
  cases h with
  | refuse ended => exact ⟨rfl, rfl, rfl, rfl, .inr ⟨_, rfl, rfl⟩⟩
  | accept goes => rw [goes] at ended; cases ended
  | handleMade => exact ⟨rfl, rfl, rfl, rfl, .inl rfl⟩
  | handleDropped => exact ⟨rfl, rfl, rfl, rfl, .inl rfl⟩
  | iterate idle => simp [idle] at point
  | run idle => simp [idle] at point
  | drift reading differs => simp [reading] at point
  | conclude judges =>
    have busy := judges.cause?_point
    rcases point with at_ | at_ <;> rw [at_] at busy <;> cases busy
  | ring waiting due => simp [waiting] at point
  | desert waiting empty alone => simp [waiting] at point
  | takeShutdown waiting queued => simp [waiting] at point
  | takeRequest waiting queued => simp [waiting] at point

/-! ## What no step changes -/

/-- Two loops are made for the same device, intent and options. -/
structure SameSetup (l l' : Loop) : Prop where
  name : l'.name = l.name
  intent : l'.intent = l.intent
  options : l'.options = l.options
  keepsSender : l'.keepsSender = l.keepsSender

theorem SameSetup.refl (l : Loop) : SameSetup l l := ⟨rfl, rfl, rfl, rfl⟩

theorem SameSetup.trans {l l' l'' : Loop} (h : SameSetup l l') (h' : SameSetup l' l'') :
    SameSetup l l'' :=
  ⟨h'.name.trans h.name, h'.intent.trans h.intent, h'.options.trans h.options,
    h'.keepsSender.trans h.keepsSender⟩

theorem sameSetup_judged (l : Loop) (verdict : Verdict) : SameSetup l (l.judged verdict) :=
  ⟨judged_name, judged_intent, judged_options, judged_keepsSender⟩

theorem Continues.sameSetup {behind : Option Cause} {result : Loop × List Effect}
    (h : l.Continues now behind result) : SameSetup l result.1 := by
  cases h <;> exact ⟨rfl, rfl, rfl, rfl⟩

theorem sameSetup_conclude : SameSetup l (l.conclude now cause verdict).1 := by
  refine (sameSetup_judged l verdict).trans ?_
  by_cases h : cause = .direct
  · subst h
    exact ⟨rfl, rfl, rfl, rfl⟩
  · exact (continues_goOn h).sameSetup

theorem Transition.sameSetup {result : Loop × List Effect} (h : l.Transition now stimulus result) :
    SameSetup l result.1 := by
  cases h with
  | run idle => exact (l.continues_turn now none).sameSetup
  | conclude judges => exact sameSetup_conclude
  | ring waiting due => exact (l.continues_turn now none).sameSetup
  | _ => exact ⟨rfl, rfl, rfl, rfl⟩

/-! ## Messages -/

theorem Continues.sentIn_eq {behind : Option Cause} {result : Loop × List Effect}
    (h : l.Continues now behind result) : sentIn result.2 = [] := by
  cases h with
  | halt why => simp [Loop.halt]
  | regular empty below => rfl
  | drained queued below => rfl
  | wait below => rfl
  | resume below held => rfl
  | abort below beyond => simp

theorem sentIn_conclude : sentIn (l.conclude now cause verdict).2 = [] := by
  have next : sentIn ((l.judged verdict).goOn now cause).2 = [] := by
    by_cases h : cause = .direct
    · subst h
      rfl
    · exact (continues_goOn h).sentIn_eq
  simp [conclude, next]

/-- What is sent is what handles send. -/
theorem Transition.sentIn_eq {result : Loop × List Effect}
    (h : l.Transition now stimulus result) : sentIn result.2 = stimulus.message?.toList := by
  cases h with
  | run idle => simpa [after] using (l.continues_turn now none).sentIn_eq
  | conclude judges =>
    rw [sentIn_conclude]
    cases judges <;> rfl
  | ring waiting due => exact (l.continues_turn now none).sentIn_eq
  | desert waiting empty alone => simp [halt]
  | takeShutdown waiting queued => simp [halt]
  | refuse ended => simp
  | _ => rfl

/-! ## Verdicts in steps -/

theorem Continues.verdictsIn_eq {behind : Option Cause} {result : Loop × List Effect}
    (h : l.Continues now behind result) : verdictsIn result.2 = [] := by
  cases h with
  | halt why => simp [Loop.halt]
  | regular empty below => rfl
  | drained queued below => rfl
  | wait below => rfl
  | resume below held => rfl
  | abort below beyond => simp

/-- The end of an iteration settles it, and no other. -/
theorem verdictsIn_conclude :
    verdictsIn (l.conclude now cause verdict).2 = [(l.state.iteration, verdict.outcome)] := by
  have next : verdictsIn ((l.judged verdict).goOn now cause).2 = [] := by
    by_cases h : cause = .direct
    · subst h
      rfl
    · exact (continues_goOn h).verdictsIn_eq
  rw [conclude, ← List.cons_append, verdictsIn_append, cause.verdictsIn_settled _ verdict, next]
  rfl

/-- A step settles an iteration, or settles nothing and does not give up the loop. -/
theorem Transition.settles_or {result : Loop × List Effect} (h : l.Transition now stimulus result) :
    (∃ cause verdict, l.Judges now stimulus cause verdict ∧ result = l.conclude now cause verdict) ∨
      (verdictsIn result.2 = [] ∧ (result.1.point = .aborted → l.point = .aborted)) := by
  have turned : verdictsIn l.turn.2 = [] ∧ (l.turn.1.point = .aborted → l.point = .aborted) := by
    have continues := l.continues_turn now none
    refine ⟨continues.verdictsIn_eq, ?_⟩
    generalize l.turn = result at continues
    cases continues <;> exact nofun
  cases h with
  | iterate idle => exact .inr ⟨rfl, nofun⟩
  | run idle => exact .inr ⟨by simpa [after] using turned.1, turned.2⟩
  | drift reading differs => exact .inr ⟨rfl, nofun⟩
  | conclude judges => exact .inl ⟨_, _, judges, rfl⟩
  | ring waiting due => exact .inr turned
  | desert waiting empty alone => exact .inr ⟨by simp [halt], nofun⟩
  | takeShutdown waiting queued => exact .inr ⟨by simp [halt], nofun⟩
  | takeRequest waiting queued => exact .inr ⟨rfl, nofun⟩
  | refuse ended => exact .inr ⟨by simp, id⟩
  | accept goes => exact .inr ⟨rfl, id⟩
  | handleMade => exact .inr ⟨rfl, id⟩
  | handleDropped => exact .inr ⟨rfl, id⟩

/-! ## Numbers of iterations -/

/-- From one iteration number to another, effects begin all iterations between, in order. -/
def Counts (first : Nat) (effects : List Effect) (last : Nat) : Prop :=
  ∃ count, last = first + count ∧ begunIn effects = List.range' (first + 1) count

theorem counts_none {number : Nat} {effects : List Effect} (h : begunIn effects = []) :
    Counts number effects number :=
  ⟨0, rfl, h⟩

theorem Counts.append {first middle last : Nat} {effects effects' : List Effect}
    (h : Counts first effects middle) (h' : Counts middle effects' last) :
    Counts first (effects ++ effects') last := by
  obtain ⟨count, rfl, hb⟩ := h
  obtain ⟨count', rfl, hb'⟩ := h'
  refine ⟨count + count', by omega, ?_⟩
  have hsum : first + count + 1 = first + 1 + count := by omega
  calc begunIn (effects ++ effects')
      = begunIn effects ++ begunIn effects' := begunIn_append effects effects'
    _ = List.range' (first + 1) count ++ List.range' (first + 1 + count) count' := by
      rw [hb, hb', hsum]
    _ = List.range' (first + 1) (count + count') := List.range'_append_1

theorem counts_startIteration (cause : Cause) :
    Counts l.state.iteration (l.startIteration cause).2
      (l.startIteration cause).1.state.iteration :=
  ⟨1, rfl, by simp [startIteration, LoopState.beginIteration]⟩

theorem Continues.counts {behind : Option Cause} {result : Loop × List Effect}
    (h : l.Continues now behind result) :
    Counts l.state.iteration result.2 result.1.state.iteration := by
  cases h with
  | halt why => exact counts_none (by simp [Loop.halt])
  | regular empty below => exact counts_startIteration .regular
  | @drained _ request rest queued below =>
    exact counts_startIteration (l := { l with queue := rest }) (.drained request)
  | wait below => exact counts_none (by simp [startWait])
  | resume below held => exact counts_none (by simp)
  | abort below beyond => exact counts_none (by simp)

theorem counts_conclude :
    Counts l.state.iteration (l.conclude now cause verdict).2
      (l.conclude now cause verdict).1.state.iteration := by
  have told : Counts l.state.iteration
      (.report (verdict.event l.state.iteration (l.judged verdict).state.consecutiveFailures) ::
        cause.answer verdict.outcome) (l.judged verdict).state.iteration := by
    rw [judged_iteration]
    exact counts_none (cause.begunIn_settled _ verdict _ _)
  have rest : Counts (l.judged verdict).state.iteration ((l.judged verdict).goOn now cause).2
      ((l.judged verdict).goOn now cause).1.state.iteration := by
    by_cases h : cause = .direct
    · subst h
      exact counts_none rfl
    · exact (continues_goOn h).counts
  exact told.append rest

theorem Transition.counts {result : Loop × List Effect} (h : l.Transition now stimulus result) :
    Counts l.state.iteration result.2 result.1.state.iteration := by
  cases h with
  | iterate idle => exact counts_startIteration .direct
  | run idle =>
    have opening : Counts l.state.iteration [.report (.start l.name l.intent)] l.state.iteration :=
      counts_none (by simp)
    exact opening.append (l.continues_turn now none).counts
  | drift reading differs => exact counts_none (by simp)
  | conclude judges => exact counts_conclude
  | ring waiting due => exact (l.continues_turn now none).counts
  | desert waiting empty alone => exact counts_none (by simp [halt])
  | takeShutdown waiting queued => exact counts_none (by simp [halt])
  | @takeRequest _ request rest waiting queued =>
    exact counts_startIteration (l := { l with queue := rest }) (.awaited request)
  | refuse ended => exact counts_none (by simp)
  | accept goes => exact counts_none (by simp)
  | handleMade => exact counts_none rfl
  | handleDropped => exact counts_none rfl

end Loop

/-! ## Executions -/

/-- A step that was taken: from what, when and why, with what effects, and to what. -/
structure Move where
  before : Loop
  now : Tick
  stimulus : Stimulus
  effects : List Effect
  after : Loop

/-- By these moves, in their order, a loop becomes another. -/
inductive Execution (l : Loop) : List Move → Loop → Prop where
  | start : Execution l [] l
  | step {moves : List Move} {l₁ l₂ : Loop} {now : Tick} {stimulus : Stimulus}
      {effects : List Effect} (earlier : Execution l moves l₁)
      (taken : l₁.step now stimulus = some (l₂, effects)) :
      Execution l (moves ++ [⟨l₁, now, stimulus, effects, l₂⟩]) l₂

/-- All effects of moves, in their order. -/
def effectsOf (moves : List Move) : List Effect :=
  moves.flatMap Move.effects

/-- The messages that handles send, in their order. -/
def messagesOf (moves : List Move) : List Message :=
  moves.filterMap fun move => move.stimulus.message?

@[simp] theorem effectsOf_nil : effectsOf [] = [] := rfl

@[simp] theorem effectsOf_append (moves moves' : List Move) :
    effectsOf (moves ++ moves') = effectsOf moves ++ effectsOf moves' := by
  simp [effectsOf]

@[simp] theorem effectsOf_singleton (move : Move) : effectsOf [move] = move.effects := by
  simp [effectsOf]

/-- A loop as it is made. -/
def Loop.create (name : String) (intent : Intent) (options : LoopOptions) : Loop where
  name
  intent
  options

namespace Execution

variable {l l' l'' : Loop} {moves moves' : List Move}

theorem append (h : Execution l moves l') (h' : Execution l' moves' l'') :
    Execution l (moves ++ moves') l'' := by
  induction h' with
  | start => simpa using h
  | step earlier taken ih =>
    rw [← List.append_assoc]
    exact ih.step taken

/-- An execution can be cut anywhere. -/
theorem split (h : Execution l (moves ++ moves') l'') :
    ∃ l', Execution l moves l' ∧ Execution l' moves' l'' := by
  generalize hall : moves ++ moves' = all at h
  induction h generalizing moves' with
  | start =>
    obtain ⟨rfl, rfl⟩ := List.append_eq_nil_iff.mp hall
    exact ⟨l, .start, .start⟩
  | @step earlierMoves l₁ l₂ now stimulus effects earlier taken ih =>
    rcases List.eq_nil_or_concat moves' with rfl | ⟨front, last, rfl⟩
    · rw [List.append_nil] at hall
      subst hall
      exact ⟨l₂, earlier.step taken, .start⟩
    · rw [List.concat_eq_append, ← List.append_assoc] at hall
      obtain ⟨hfront, hlast⟩ := List.append_inj' hall rfl
      cases hlast
      obtain ⟨middle, before, behind⟩ := ih hfront
      rw [List.concat_eq_append]
      exact ⟨middle, before, behind.step taken⟩

theorem eq_of_nil (h : Execution l [] l') : l' = l := by
  generalize hnil : [] = all at h
  cases h with
  | start => rfl
  | step earlier taken => simp at hnil

theorem of_singleton {move : Move} (h : Execution l [move] l') :
    move.before = l ∧ move.after = l' ∧
      l.step move.now move.stimulus = some (l', move.effects) := by
  generalize hall : [move] = all at h
  cases h with
  | start => cases hall
  | step earlier taken =>
    rcases List.append_eq_singleton_iff.mp hall.symm with ⟨rfl, hmove⟩ | ⟨-, hmove⟩
    · cases hmove
      cases earlier.eq_of_nil
      exact ⟨rfl, rfl, taken⟩
    · cases hmove

/-- A move of an execution was a step, of a loop that came about before it. -/
theorem move_taken {move : Move} (h : Execution l (moves ++ move :: moves') l'') :
    Execution l moves move.before ∧
      move.before.step move.now move.stimulus = some (move.after, move.effects) ∧
      Execution move.after moves' l'' := by
  obtain ⟨l₁, before, rest⟩ := h.split
  obtain ⟨l₂, one, behind⟩ := (show Execution l₁ ([move] ++ moves') l'' from rest).split
  obtain ⟨rfl, rfl, taken⟩ := one.of_singleton
  exact ⟨before, taken, behind⟩

/-! ## Schedules -/

end Execution

/-- The moves of a loop under a schedule, and what becomes of it; what cannot occur is left out. -/
def Loop.replay (l : Loop) : List (Tick × Stimulus) → List Move × Loop
  | [] => ([], l)
  | (now, stimulus) :: rest =>
    match l.step now stimulus with
    | some (l', effects) => (⟨l, now, stimulus, effects, l'⟩ :: (l'.replay rest).1, (l'.replay rest).2)
    | none => l.replay rest

namespace Execution

variable {l l' l'' : Loop} {moves moves' : List Move}

theorem of_replay (l : Loop) (schedule : List (Tick × Stimulus)) :
    Execution l (l.replay schedule).1 (l.replay schedule).2 := by
  induction schedule generalizing l with
  | nil => exact .start
  | cons entry rest ih =>
    unfold Loop.replay
    split
    · next l' effects taken =>
      have first : Execution l ([] ++ [⟨l, entry.1, entry.2, effects, l'⟩]) l' :=
        Execution.start.step taken
      exact first.append (ih l')
    · exact ih l

/-! ## What an execution keeps -/

theorem sameSetup (h : Execution l moves l') : Loop.SameSetup l l' := by
  induction h with
  | start => exact .refl l
  | step earlier taken ih => exact ih.trans (Loop.transition_of_step taken).sameSetup

theorem sentIn_effectsOf (h : Execution l moves l') :
    sentIn (effectsOf moves) = messagesOf moves := by
  induction h with
  | start => rfl
  | @step moves l₁ l₂ now stimulus effects earlier taken ih =>
    have told : sentIn effects = stimulus.message?.toList :=
      (Loop.transition_of_step taken).sentIn_eq
    rw [effectsOf_append, effectsOf_singleton, sentIn_append, messagesOf, List.filterMap_append]
    refine congr (congrArg _ ih) (told.trans ?_)
    cases stimulus <;> rfl

/-- What has ended stays as it is. -/
theorem of_ended (h : Execution l moves l') (ended : l.hasEnded = true) :
    l'.point = l.point ∧ l'.queue = l.queue ∧ l'.state = l.state ∧ l'.summary = l.summary := by
  induction h with
  | start => exact ⟨rfl, rfl, rfl, rfl⟩
  | @step moves l₁ l₂ now stimulus effects earlier taken ih =>
    obtain ⟨point, queue, state, summary⟩ := ih
    have ended₁ : l₁.hasEnded = true := (Loop.hasEnded_congr point).trans ended
    obtain ⟨point', queue', state', summary', -⟩ := (Loop.transition_of_step taken).of_ended ended₁
    exact ⟨point'.trans point, queue'.trans queue, state'.trans state, summary'.trans summary⟩

/-- Iterations are numbered one after the other, each one higher than the one before. -/
theorem begun_eq (h : Execution l moves l') :
    Loop.Counts l.state.iteration (effectsOf moves) l'.state.iteration := by
  induction h with
  | start => exact Loop.counts_none rfl
  | step earlier taken ih =>
    rw [effectsOf_append, effectsOf_singleton]
    exact ih.append (Loop.transition_of_step taken).counts

end Execution

end ClosedLoop
