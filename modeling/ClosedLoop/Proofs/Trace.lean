import ClosedLoop.Proofs.Progress
import ClosedLoop.Proofs.Stopping
import ClosedLoop.Sample
import Mathlib.Data.List.Chain

/-!
# The events of a run

A run tells of its start, then of its iterations one by one, then of its end. Each iteration has a
block of events: that it begins, what it comes to, and, if it is the last one before a wait, how
long the wait is. The counters of a loop are the numbers of these events.

* `Block` — what a run tells of one iteration
* `Loop.Transition.story` — a step goes on with the story of a run
* `Tallied` — the counters, kept by all that a step can be to the iterations
* `events_agree_with_counters` — the form of a run's events, and the counters in every state
-/

namespace ClosedLoop

attribute [local simp] List.filterMap_cons

/-! ## Views of effects -/

/-- The event that is reported. -/
@[simp] def Effect.event? : Effect → Option Event
  | .report event => some event
  | _ => none

/-- The events reported, in their order. -/
abbrev eventsIn (effects : List Effect) : List Event :=
  effects.filterMap Effect.event?

theorem eventsIn_append (effects effects' : List Effect) :
    eventsIn (effects ++ effects') = eventsIn effects ++ eventsIn effects' :=
  List.filterMap_append

theorem mem_eventsIn {effects : List Effect} {event : Event} :
    event ∈ eventsIn effects ↔ .report event ∈ effects := by
  constructor
  · intro member
    obtain ⟨effect, there, told⟩ := List.mem_filterMap.mp member
    cases effect with
    | report event' => exact Option.some.inj told ▸ there
    | _ => cases told
  · intro there
    exact List.mem_filterMap.mpr ⟨_, there, rfl⟩

@[simp] theorem eventsIn_unanswered (messages : List Message) :
    eventsIn (Loop.unanswered messages) = [] := by
  rw [Loop.unanswered_eq]
  simp

@[simp] theorem eventsIn_told (l : Loop) (cause : Cause) (verdict : Verdict) :
    eventsIn (l.told cause verdict) =
      [verdict.event l.state.iteration (l.judged verdict).state.consecutiveFailures] := by
  cases cause <;> rfl

/-- The event tells of a wait. -/
@[simp] def Event.isWaiting : Event → Bool
  | .waiting _ => true
  | _ => false

/-! ## Blocks -/

/-- What an iteration comes to, with the drift that an apply is called for. -/
inductive Ending where
  | unread (error : EnforcementError)
  | compliant (state : OperationalState)
  | applied (fields : List FieldDrift) (drifted : fields ≠ []) (state : OperationalState)
  | failed (fields : List FieldDrift) (drifted : fields ≠ []) (error : EnforcementError)
      (failures : Nat)

/-- What is told of the end of an iteration of this number. -/
def Ending.events (number : Nat) : Ending → List Event
  | unread error => [.readFailed number error]
  | compliant state => [.compliant number state]
  | applied fields _ state => [.drift number fields, .applied number state]
  | failed fields _ error failures => [.drift number fields, .applyFailed number error failures]

/-- One iteration of a run, and the delay of the wait behind it, if there is one. -/
structure Block where
  ending : Ending
  wait : Option Duration := none

namespace Block

/-- What is told of an iteration of this number. -/
def events (number : Nat) (block : Block) : List Event :=
  .iteration number :: (block.ending.events number ++ (block.wait.map Event.waiting).toList)

/-- What is told of iterations, numbered on behind a last number. -/
def trace : Nat → List Block → List Event := numbered events

theorem trace_cons (first : Nat) (block : Block) (rest : List Block) :
    trace first (block :: rest) = block.events (first + 1) ++ trace (first + 1) rest := rfl

theorem trace_concat (first : Nat) (blocks : List Block) (block : Block) :
    trace first (blocks ++ [block]) =
      trace first blocks ++ block.events (first + blocks.length + 1) :=
  numbered_concat events first blocks block

/-- The last iteration has no wait behind it. -/
def LastBare (blocks : List Block) : Prop :=
  ∀ block, blocks.getLast? = some block → block.wait = none

theorem lastBare_nil : LastBare [] := nofun

theorem lastBare_concat (blocks : List Block) (ending : Ending) :
    LastBare (blocks ++ [⟨ending, none⟩]) := by
  intro block last
  rw [List.getLast?_concat] at last
  cases last
  rfl

/-- Without a wait behind the last iteration, no wait is told of last. -/
theorem LastBare.trace_ne {blocks : List Block} (bare : LastBare blocks) (first : Nat)
    (ahead : List Event) (delay : Duration) : trace first blocks ≠ ahead ++ [.waiting delay] := by
  intro same
  rcases List.eq_nil_or_concat blocks with rfl | ⟨earlier, last, rfl⟩
  · exact absurd same.symm (List.append_ne_nil_of_right_ne_nil _ (List.cons_ne_nil _ _))
  · rw [List.concat_eq_append] at bare same
    have none : last.wait = none := bare last List.getLast?_concat
    have tail := congrArg List.getLast? same
    rw [trace_concat, events, none, Option.map_none, Option.toList_none, List.append_nil,
      List.getLast?_concat] at tail
    cases ending : last.ending <;> simp [ending, Ending.events] at tail

/-! ## Waits in blocks -/

/-- No two waits are told of one after the other, and none at first. -/
def Spaced (events : List Event) : Prop :=
  events.IsChain (fun event next => ¬(event.isWaiting = true ∧ next.isWaiting = true)) ∧
    ∀ event, events.head? = some event → event.isWaiting = false

theorem spaced_events_append {tail : List Event} (spaced : Spaced tail) (number : Nat)
    (block : Block) : Spaced (block.events number ++ tail) := by
  obtain ⟨chain, head⟩ := spaced
  obtain ⟨ending, wait⟩ := block
  refine ⟨List.isChain_append.mpr ⟨?_, chain, ?_⟩, ?_⟩
  · cases ending <;> cases wait <;> simp [events, Ending.events]
  · intro event _ next first both
    rw [head next first] at both
    exact nomatch both.2
  · intro event first
    cases first
    rfl

theorem spaced_trace_append {tail : List Event} (spaced : Spaced tail) (first : Nat)
    (blocks : List Block) : Spaced (trace first blocks ++ tail) := by
  induction blocks generalizing first with
  | nil => exact spaced
  | cons block rest ih =>
    rw [trace_cons, List.append_assoc]
    exact spaced_events_append (ih (first + 1)) _ block

end Block

/-! ## The story of a run -/

/--
What a run has told behind its start: blocks for the iterations settled, and the beginning of the
one in progress or the end of the run. Of a run that was given up, nothing is said.
-/
inductive Story (first : Nat) (l : Loop) : List Event → Prop where
  | reads {blocks : List Block} (stage : l.point.stage = .reading)
      (number : l.state.iteration = first + blocks.length + 1) :
      Story first l (Block.trace first blocks ++ [.iteration l.state.iteration])
  | applies {blocks : List Block} {fields : List FieldDrift} (stage : l.point.stage = .applying)
      (number : l.state.iteration = first + blocks.length + 1) (drifted : fields ≠ []) :
      Story first l (Block.trace first blocks ++
        [.iteration l.state.iteration, .drift l.state.iteration fields])
  | waits {blocks : List Block} {deadline : Tick} (point : l.point = .waiting deadline)
      (number : l.state.iteration = first + blocks.length) :
      Story first l (Block.trace first blocks)
  | stopped {blocks : List Block} (point : l.point = .stopped)
      (number : l.state.iteration = first + blocks.length)
      (last : l.limitReached = true → Block.LastBare blocks) :
      Story first l (Block.trace first blocks ++ [.stopped l.summary])
  | aborted {events : List Event} (point : l.point = .aborted) : Story first l events

namespace Loop

variable {l l' : Loop} {now : Tick} {stimulus : Stimulus} {result : Loop × List Effect}
  {cause : Cause} {verdict : Verdict} {first : Nat} {events : List Event} {blocks : List Block}

/-- A step that tells nothing and leaves the point and the counts as they are. -/
theorem story_quiet {effects : List Effect} (h : Story first l events) (point : l'.point = l.point)
    (state : l'.state = l.state) (summary : l'.summary = l.summary)
    (options : l'.options = l.options) (quiet : eventsIn effects = []) :
    Story first l' (events ++ eventsIn effects) := by
  have limit : l'.limitReached = l.limitReached := by
    rw [limitReached, limitReached, options, state]
  rw [quiet, List.append_nil]
  cases h with
  | reads stage number =>
    rw [← state] at number ⊢
    exact .reads (point ▸ stage) number
  | applies stage number drifted =>
    rw [← state] at number ⊢
    exact .applies (point ▸ stage) number drifted
  | waits at_ number => exact .waits (point.trans at_) (state ▸ number)
  | stopped at_ number last =>
    rw [← summary]
    exact .stopped (point.trans at_) (state ▸ number) (limit ▸ last)
  | aborted at_ => exact .aborted (point.trans at_)

/-! ### Between two iterations -/

theorem story_halt (number : l.state.iteration = first + blocks.length)
    (last : l.limitReached = true → Block.LastBare blocks) :
    Story first (l.halt []).1 (Block.trace first blocks ++ eventsIn (l.halt []).2) := by
  have told : eventsIn (l.halt []).2 = [.stopped l.summary] := by simp [halt]
  rw [told]
  exact .stopped rfl number last

theorem story_startIteration (number : l.state.iteration = first + blocks.length) (cause : Cause) :
    Story first (l.startIteration cause).1
      (Block.trace first blocks ++ eventsIn (l.startIteration cause).2) :=
  .reads rfl (congrArg (· + 1) number)

/-- A wait that is told of belongs to the block before it. -/
theorem story_wait {deadline : Tick} {earlier : List Block} {ending : Ending} (delay : Duration)
    (point : l.point = .waiting deadline)
    (number : l.state.iteration = first + (earlier ++ [Block.mk ending none]).length) :
    Story first l (Block.trace first (earlier ++ [⟨ending, none⟩]) ++ [.waiting delay]) := by
  have joined : Block.trace first (earlier ++ [⟨ending, none⟩]) ++ [.waiting delay] =
      Block.trace first (earlier ++ [⟨ending, some delay⟩]) := by
    rw [Block.trace_concat, Block.trace_concat, List.append_assoc]
    simp [Block.events]
  rw [joined]
  rw [List.length_append] at number
  exact .waits point (by rw [number, List.length_append]; rfl)

theorem Continues.story {behind : Option Cause} (h : l.Continues now behind result)
    (blocks : List Block) (number : l.state.iteration = first + blocks.length)
    (fresh : behind ≠ none → ∃ earlier ending, blocks = earlier ++ [⟨ending, none⟩])
    (last : l.limitReached = true → Block.LastBare blocks) :
    Story first result.1 (Block.trace first blocks ++ eventsIn result.2) := by
  cases h with
  | halt why => exact story_halt number last
  | regular empty below => exact story_startIteration number _
  | @drained _ request rest queued below =>
    exact story_startIteration (l := { l with queue := rest }) number _
  | wait below =>
    obtain ⟨earlier, ending, rfl⟩ := fresh (Option.some_ne_none _)
    exact story_wait _ rfl number
  | resume below held =>
    obtain ⟨earlier, ending, rfl⟩ := fresh (Option.some_ne_none _)
    exact story_wait _ rfl number
  | abort below beyond => exact .aborted rfl

/-! ### The end of an iteration -/

/-- What an iteration comes to completes its block, and the story goes on behind it. -/
theorem story_conclude {begun : List Event} (ending : Ending) (scheduled : cause ≠ .direct)
    (number : l.state.iteration = first + blocks.length + 1)
    (completed : begun ++
        [verdict.event l.state.iteration (l.judged verdict).state.consecutiveFailures] =
      .iteration l.state.iteration :: ending.events l.state.iteration) :
    Story first (l.conclude now cause verdict).1
      (Block.trace first blocks ++ begun ++ eventsIn (l.conclude now cause verdict).2) := by
  have whole : Block.trace first blocks ++ begun ++ eventsIn (l.conclude now cause verdict).2 =
      Block.trace first (blocks ++ [⟨ending, none⟩]) ++
        eventsIn ((l.judged verdict).goOn now cause).2 := by
    rw [conclude_eq, eventsIn_append, eventsIn_told, Block.trace_concat, ← number, Block.events,
      Option.map_none, Option.toList_none, List.append_nil, ← completed]
    simp only [List.append_assoc]
  rw [whole]
  refine (continues_goOn scheduled).story _ ?_ (fun _ => ⟨blocks, ending, rfl⟩)
    (fun _ => Block.lastBare_concat blocks ending)
  rw [judged_iteration, number, List.length_append]
  rfl

theorem Judges.story (h : l.Judges now stimulus cause verdict) (scheduled : cause ≠ .direct)
    (story : Story first l events) :
    Story first (l.conclude now cause verdict).1
      (events ++ eventsIn (l.conclude now cause verdict).2) := by
  have stage := h.stage
  -- The verdict fits the stage, which tells how far the block of the iteration is.
  cases story with
  | reads reading number =>
    cases verdict with
    | unread error => exact story_conclude (.unread error) scheduled number rfl
    | compliant observed =>
      exact story_conclude (.compliant observed) scheduled number rfl
    | applied state => exact nomatch stage.symm.trans reading
    | failed error => exact nomatch stage.symm.trans reading
  | @applies _ fields applying number drifted =>
    cases verdict with
    | unread error => exact nomatch stage.symm.trans applying
    | compliant observed => exact nomatch stage.symm.trans applying
    | applied state =>
      exact story_conclude (.applied fields drifted state) scheduled number rfl
    | failed error =>
      exact story_conclude (.failed fields drifted error _) scheduled number rfl
  | waits point number =>
    have busy := h.cause?_point
    rw [point] at busy
    cases busy
  | stopped point number last =>
    have busy := h.cause?_point
    rw [point] at busy
    cases busy
  | aborted point =>
    have busy := h.cause?_point
    rw [point] at busy
    cases busy

/-! ### Steps of a run -/

/-- Where a run waits, all iterations begun have their blocks. -/
theorem blocks_of_waiting {deadline : Tick} (story : Story first l events)
    (waiting : l.point = .waiting deadline) :
    ∃ blocks, events = Block.trace first blocks ∧ l.state.iteration = first + blocks.length := by
  cases story with
  | waits point number => exact ⟨_, rfl, number⟩
  | reads stage number => rw [waiting] at stage; cases stage
  | applies stage number drifted => rw [waiting] at stage; cases stage
  | stopped point number last => rw [waiting] at point; cases point
  | aborted point => rw [waiting] at point; cases point

/-- A step of a run goes on with its story. -/
theorem Transition.story {from_ : Nat} (h : l.Transition now stimulus result)
    (running : l.Running from_) (story : Story first l events) :
    Story first result.1 (events ++ eventsIn result.2) := by
  -- In the wait the limit has not been reached, so that no end there is one at the limit.
  have below {deadline : Tick} (waiting : l.point = .waiting deadline) (blocks : List Block) :
      l.limitReached = true → Block.LastBare blocks := by
    intro reached
    exact nomatch (running.waits deadline waiting).symm.trans reached
  cases h with
  | iterate idle => exact absurd idle running.called
  | run idle => exact absurd idle running.called
  | @drift cause observed reading differs =>
    cases story with
    | reads stage number =>
      have drifted : detectDrift l.intent observed ≠ [] := fun none =>
        ne_state_of_not_compliant differs (detectDrift_eq_nil_iff.mp none)
      rw [List.append_assoc]
      exact .applies rfl number drifted
    | applies stage => rw [reading] at stage; cases stage
    | waits point => rw [reading] at point; cases point
    | stopped point => rw [reading] at point; cases point
    | aborted point => rw [reading] at point; cases point
  | @conclude _ cause verdict judges =>
    have scheduled : cause ≠ .direct := by
      rintro rfl
      exact running.scheduled judges.cause?_point
    exact judges.story scheduled story
  | ring waiting due =>
    obtain ⟨blocks, rfl, number⟩ := blocks_of_waiting story waiting
    exact (l.continues_turn now none).story blocks number (fun some => absurd rfl some)
      (below waiting blocks)
  | desert waiting empty alone =>
    obtain ⟨blocks, rfl, number⟩ := blocks_of_waiting story waiting
    exact story_halt number (below waiting blocks)
  | takeShutdown waiting queued =>
    obtain ⟨blocks, rfl, number⟩ := blocks_of_waiting story waiting
    exact story_halt number (below waiting blocks)
  | @takeRequest _ request rest waiting queued =>
    obtain ⟨blocks, rfl, number⟩ := blocks_of_waiting story waiting
    exact story_startIteration (l := { l with queue := rest }) number _
  | refuse ended => exact story_quiet story rfl rfl rfl rfl (by simp)
  | accept goes => exact story_quiet story rfl rfl rfl rfl rfl
  | handleMade => exact story_quiet story rfl rfl rfl rfl rfl
  | handleDropped => exact story_quiet story rfl rfl rfl rfl rfl

end Loop

/-- A run tells of its start, and then its story. -/
theorem Execution.story {l l' : Loop} {moves : List Move} (h : Execution l moves l')
    (called : moves.head?.map Move.stimulus = some .run) :
    ∃ events, eventsIn (effectsOf moves) = .start l.name l.intent :: events ∧
      Story l.state.iteration l' events := by
  -- The first move is the call; the story is kept by those behind it.
  induction h with
  | start => cases called
  | @step moves l₁ l₂ now stimulus effects earlier taken ih =>
    have transition := Loop.transition_of_step taken
    rw [effectsOf_append, effectsOf_singleton, eventsIn_append]
    cases moves with
    | nil =>
      cases earlier.eq_of_nil
      cases Option.some.inj called
      generalize hresult : (l₂, effects) = result at transition
      cases transition with
      | run idle =>
        cases hresult
        refine ⟨eventsIn l.turn.2, rfl, ?_⟩
        exact (l.continues_turn now none).story [] rfl (fun some => absurd rfl some)
          (fun _ => Block.lastBare_nil)
      | conclude judges => cases judges
    | cons call rest =>
      obtain ⟨events, told, story⟩ := ih called
      refine ⟨events ++ eventsIn effects, by rw [told]; rfl, ?_⟩
      exact transition.story (earlier.running_of_run called) story

/-! ## Counters -/

/-- The counters of a loop are the numbers of the events that it has reported. -/
structure Tallied (effects : List Effect) (l : Loop) (stage : Stage) : Prop where
  begun : (begunIn effects).length = l.state.iteration
  iterations : l.summary.iterations = l.state.iteration
  applies : l.summary.applies = (outcomesIn effects).count .converged
  applyFailures : l.summary.applyFailures = (outcomesIn effects).count .applyFailed
  readFailures : l.summary.readFailures = (outcomesIn effects).count .stateUnknown
  settled : (outcomesIn effects).length + stage.pending = l.state.iteration

/-- What neither begins nor settles an iteration leaves the numbers as they are. -/
theorem Tallied.append {effects more : List Effect} {l l' : Loop} {stage stage' : Stage}
    (h : Tallied effects l stage) (begun : begunIn more = []) (settled : outcomesIn more = [])
    (iteration : l'.state.iteration = l.state.iteration) (summary : l'.summary = l.summary)
    (pending : stage'.pending = stage.pending) : Tallied (effects ++ more) l' stage' := by
  have begunAll : begunIn (effects ++ more) = begunIn effects := by
    rw [begunIn_append, begun, List.append_nil]
  have settledAll : outcomesIn (effects ++ more) = outcomesIn effects := by
    rw [outcomesIn_append, settled, List.append_nil]
  constructor
  · rw [begunAll, iteration]
    exact h.begun
  · rw [summary, iteration]
    exact h.iterations
  · rw [summary, settledAll]
    exact h.applies
  · rw [summary, settledAll]
    exact h.applyFailures
  · rw [summary, settledAll]
    exact h.readFailures
  · rw [iteration, settledAll, pending]
    exact h.settled

theorem kept_tallied : Kept Tallied where
  idle := by
    intro effects more l l' stage h same idle _
    exact h.append idle.begunIn_eq idle.outcomesIn_eq same.iteration same.summary rfl
  begins := by
    intro effects l cause h
    refine ⟨?_, congrArg (· + 1) h.iterations, ?_, ?_, ?_, ?_⟩
    · rw [begunIn_append, List.length_append, h.begun]
      rfl
    · rw [outcomesIn_append_begin]
      exact h.applies
    · rw [outcomesIn_append_begin]
      exact h.applyFailures
    · rw [outcomesIn_append_begin]
      exact h.readFailures
    · rw [outcomesIn_append_begin]
      exact congrArg (· + 1) h.settled
  drifts := by
    intro effects l cause limit observed h differs
    exact h.append rfl rfl rfl rfl rfl
  settles := by
    intro effects l cause verdict h
    obtain ⟨begun, iterations, applies, applyFailures, readFailures, settled⟩ := h
    have pending : verdict.stage.pending = 1 := by cases verdict <;> rfl
    refine ⟨?_, ?_, ?_, ?_, ?_, ?_⟩
    · rw [begunIn_append, Loop.begunIn_told, List.append_nil, Loop.judged_iteration]
      exact begun
    · rw [Loop.judged_iterations, Loop.judged_iteration]
      exact iterations
    · rw [outcomesIn_append_told, List.count_append, ← applies]
      cases verdict <;> rfl
    · rw [outcomesIn_append_told, List.count_append, ← applyFailures]
      cases verdict <;> rfl
    · rw [outcomesIn_append_told, List.count_append, ← readFailures]
      cases verdict <;> rfl
    · rw [outcomesIn_append_told, List.length_append, Loop.judged_iteration, ← settled, pending]
      rfl

theorem tallied_of_execution {name : String} {intent : Intent} {options : LoopOptions}
    {moves : List Move} {l : Loop} (h : Execution (Loop.create name intent options) moves l) :
    Tallied (effectsOf moves) l l.point.stage :=
  kept_tallied.of_new ⟨rfl, rfl, rfl, rfl, rfl, rfl⟩ h

/-- Each outcome is one of the four. -/
theorem count_outcomes (outcomes : List Outcome) :
    outcomes.count .compliant + outcomes.count .converged + outcomes.count .applyFailed +
      outcomes.count .stateUnknown = outcomes.length := by
  induction outcomes with
  | nil => rfl
  | cons outcome rest ih =>
    rw [List.length_cons, ← ih]
    cases outcome <;> simp <;> omega

/-! ## Events and counters -/

/--
The events of a run that has returned are its start, one block for each iteration, numbered on from
the iterations before the run, and its end. No wait is told of right behind the start or another
wait, and none right before the end of a run at its limit. In every state that a loop comes to, by
direct calls or in a run, its counters are the numbers of the events reported since it was made.
-/
theorem events_agree_with_counters {name : String} {intent : Intent} {options : LoopOptions}
    {before moves : List Move} {l l' : Loop}
    (earlier : Execution (Loop.create name intent options) before l) (h : Execution l moves l') :
    (moves.head?.map Move.stimulus = some .run → l'.point = .stopped →
      (∃ blocks, eventsIn (effectsOf moves) =
          .start name intent ::
            (Block.trace l.state.iteration blocks ++ [.stopped l'.summary]) ∧
        l'.state.iteration = l.state.iteration + blocks.length) ∧
      (∀ ahead delay delay' behind,
        eventsIn (effectsOf moves) ≠ ahead ++ .waiting delay :: .waiting delay' :: behind) ∧
      (∀ delay, (eventsIn (effectsOf moves))[1]? ≠ some (.waiting delay)) ∧
      (l'.limitReached = true → ∀ ahead delay summary,
        eventsIn (effectsOf moves) ≠ ahead ++ [.waiting delay, .stopped summary])) ∧
    l'.summary.iterations = l'.state.iteration ∧
    (begunIn (effectsOf (before ++ moves))).length = l'.state.iteration ∧
    l'.summary.applies = (outcomesIn (effectsOf (before ++ moves))).count .converged ∧
    l'.summary.applyFailures = (outcomesIn (effectsOf (before ++ moves))).count .applyFailed ∧
    l'.summary.readFailures = (outcomesIn (effectsOf (before ++ moves))).count .stateUnknown ∧
    (l'.point.cause? = none →
      (outcomesIn (effectsOf (before ++ moves))).count .compliant + l'.summary.applies +
        l'.summary.applyFailures + l'.summary.readFailures = l'.summary.iterations) ∧
    (l'.point.cause? ≠ none →
      (outcomesIn (effectsOf (before ++ moves))).count .compliant + l'.summary.applies +
        l'.summary.applyFailures + l'.summary.readFailures + 1 = l'.summary.iterations) := by
  have tallied : Tallied (effectsOf (before ++ moves)) l' l'.point.stage :=
    tallied_of_execution (earlier.append h)
  have sum := count_outcomes (outcomesIn (effectsOf (before ++ moves)))
  rw [← tallied.applies, ← tallied.applyFailures, ← tallied.readFailures] at sum
  have settled := tallied.settled
  rw [← sum, ← tallied.iterations] at settled
  refine ⟨fun called returned => ?_, tallied.iterations, tallied.begun, tallied.applies,
    tallied.applyFailures, tallied.readFailures, fun free => ?_, fun busy => ?_⟩
  · obtain ⟨events, told, story⟩ := h.story called
    rw [earlier.sameSetup.name, earlier.sameSetup.intent] at told
    cases story with
    | reads stage => rw [returned] at stage; cases stage
    | applies stage => rw [returned] at stage; cases stage
    | waits point => rw [returned] at point; cases point
    | aborted point => rw [returned] at point; cases point
    | @stopped blocks point number last =>
      have tail : Block.Spaced [.stopped l'.summary] := by simp [Block.Spaced]
      have spaced : Block.Spaced (Block.trace l.state.iteration blocks ++ [.stopped l'.summary]) :=
        Block.spaced_trace_append tail _ _
      rw [told]
      refine ⟨⟨blocks, rfl, number⟩, ?_, ?_, ?_⟩
      · intro ahead delay delay' behind same
        cases ahead with
        | nil => cases same
        | cons start ahead =>
          have chain := spaced.1
          rw [(List.cons.inj same).2] at chain
          exact (List.isChain_append_cons_cons.mp chain).2.1 ⟨rfl, rfl⟩
      · intro delay second
        rw [List.getElem?_cons_succ, ← List.head?_eq_getElem?] at second
        cases spaced.2 _ second
      · intro reached ahead delay summary same
        cases ahead with
        | nil => cases same
        | cons start ahead =>
          have shorter : Block.trace l.state.iteration blocks = ahead ++ [.waiting delay] := by
            have whole : Block.trace l.state.iteration blocks ++ [.stopped l'.summary] =
                ahead ++ [.waiting delay] ++ [.stopped summary] := by
              rw [List.append_assoc]
              exact (List.cons.inj same).2
            exact (List.append_inj' whole rfl).1
          exact (last reached).trace_ne _ _ _ shorter
  · rw [Point.stage_eq_between.mpr free] at settled
    exact settled
  · have pending : l'.point.stage.pending = 1 := by
      cases point : l'.point with
      | reading cause => rfl
      | applying cause limit => rfl
      | _ => exact absurd (by rw [point]; rfl) busy
    omega

/-- A failed read by a direct call, then a run of two iterations, the second one requested. -/
theorem events_of_requested_run :
    let fresh := Loop.create "router1" .sample { LoopOptions.standard with maxIterations := some 3 }
    let direct := fresh.replay
      [(0, .handleMade), (0, .iterate), (0, .readAnswered (.error (.stateRead "no answer")))]
    let run := direct.2.replay
      [(0, .run), (0, .readAnswered (.ok .drifted)), (2, .applyAnswered (.ok Intent.sample.state)),
        (3, .send (.reconcile 1)), (3, .receive), (3, .readAnswered (.ok Intent.sample.state))]
    run.2.point = .stopped ∧ run.2.limitReached = true ∧
      run.2.summary = { iterations := 3, applies := 1, readFailures := 1 } ∧
      (eventsIn (effectsOf run.1)).length = 8 ∧
      ∃ blocks, eventsIn (effectsOf run.1) =
        .start "router1" .sample :: (Block.trace 1 blocks ++ [.stopped run.2.summary]) := by
  intro fresh direct run
  have called : run.1.head?.map Move.stimulus = some .run := by rfl
  have stopped : run.2.point = .stopped := by decide
  obtain ⟨told, -⟩ := events_agree_with_counters (.of_replay fresh _) (.of_replay direct.2 _)
  obtain ⟨⟨blocks, events, -⟩, -⟩ := told called stopped
  exact ⟨stopped, by decide, by decide, by decide, blocks, events⟩

end ClosedLoop
