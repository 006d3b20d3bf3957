import ClosedLoop.Proofs.Execution
import ClosedLoop.Sample

/-!
# How a run ends

A run ends in three ways: it takes a shutdown, the bound on iterations is reached, or the clock does
not hold the deadline behind a requested iteration. That others give up their handles never ends it,
since the loop holds a sender of its own.

* `Loop.Running` — what holds of a loop from the call to run on, kept by every step
* `Loop.Continues.ended` — why a loop goes no further between two iterations
* `Loop.Transition.takesAhead` — with a shutdown in the queue, a step begins an iteration only for
  the request at the head of the queue
* `Loop.step_setQueue` — the work of an iteration does not depend on the queue
-/

namespace ClosedLoop

attribute [local simp] List.filterMap_cons

namespace Loop

variable {l : Loop} {now : Tick} {stimulus : Stimulus} {result : Loop × List Effect}

/-! ## Running loops -/

/-- A loop that was called to run from an iteration number on. -/
structure Running (first : Nat) (l : Loop) : Prop where
  called : l.point ≠ .idle
  scheduled : l.point.cause? ≠ some .direct
  waits : ∀ deadline, l.point = .waiting deadline → l.limitReached = false
  bounded : ∀ bound, l.options.maxIterations = some bound → l.state.iteration ≤ max first bound

theorem running_startIteration {first : Nat} {cause : Cause} (below : l.limitReached = false)
    (scheduled : cause ≠ .direct) : (l.startIteration cause).1.Running first where
  called := by simp [startIteration]
  scheduled := by simpa [startIteration, Point.cause?] using scheduled
  waits := by
    intro deadline waiting
    cases waiting
  bounded := by
    intro bound some
    have room : l.state.iteration < bound := iteration_lt below some
    show l.state.iteration + 1 ≤ max first bound
    omega

theorem Continues.running {first : Nat} {behind : Option Cause} (h : l.Continues now behind result)
    (bounded : ∀ bound, l.options.maxIterations = some bound → l.state.iteration ≤ max first bound) :
    result.1.Running first := by
  cases h with
  | halt why => exact ⟨nofun, nofun, nofun, bounded⟩
  | regular empty below => exact running_startIteration below nofun
  | @drained _ request rest queued below =>
    exact running_startIteration (l := { l with queue := rest }) below nofun
  | wait below => exact ⟨nofun, nofun, fun _ _ => below, bounded⟩
  | resume below held => exact ⟨nofun, nofun, fun _ _ => below, bounded⟩
  | abort below beyond => exact ⟨nofun, nofun, nofun, bounded⟩

/-- A step of a loop that runs is one of a loop that goes on running. -/
theorem Transition.running {first : Nat} (h : l.Transition now stimulus result)
    (running : l.Running first) : result.1.Running first := by
  cases h with
  | iterate idle => exact absurd idle running.called
  | run idle => exact absurd idle running.called
  | drift reading differs =>
    refine ⟨nofun, ?_, nofun, running.bounded⟩
    have scheduled := running.scheduled
    rw [reading] at scheduled
    exact scheduled
  | @conclude stimulus cause verdict judges =>
    have scheduled : cause ≠ .direct := by
      rintro rfl
      exact running.scheduled judges.cause?_point
    have bounded : ∀ bound, (l.judged verdict).options.maxIterations = some bound →
        (l.judged verdict).state.iteration ≤ max first bound := by
      rw [judged_options, judged_iteration]
      exact running.bounded
    exact (continues_goOn scheduled).running bounded
  | ring waiting due => exact (l.continues_turn now none).running running.bounded
  | desert waiting empty alone => exact ⟨nofun, nofun, nofun, running.bounded⟩
  | takeShutdown waiting queued => exact ⟨nofun, nofun, nofun, running.bounded⟩
  | @takeRequest deadline request rest waiting queued =>
    exact running_startIteration (l := { l with queue := rest }) (running.waits deadline waiting)
      nofun
  | refuse ended => exact running
  | accept goes => exact ⟨running.called, running.scheduled, running.waits, running.bounded⟩
  | handleMade => exact ⟨running.called, running.scheduled, running.waits, running.bounded⟩
  | handleDropped => exact ⟨running.called, running.scheduled, running.waits, running.bounded⟩

/-- The call to run makes a loop one that runs. -/
theorem running_of_run (h : l.step now .run = some result) :
    result.1.Running l.state.iteration := by
  cases transition_of_step h with
  | run idle => exact (l.continues_turn now none).running fun bound some => Nat.le_max_left _ _
  | conclude judges => cases judges

end Loop

namespace Execution

variable {l l' : Loop} {moves : List Move}

theorem running {first : Nat} (h : Execution l moves l') (running : l.Running first) :
    l'.Running first := by
  induction h with
  | start => exact running
  | step earlier taken ih => exact (Loop.transition_of_step taken).running ih

/-- From the call to run on, a loop runs. -/
theorem running_of_run (h : Execution l moves l')
    (called : moves.head?.map Move.stimulus = some .run) :
    l'.Running l.state.iteration := by
  cases moves with
  | nil => cases called
  | cons call rest =>
    obtain ⟨nothing, taken, behind⟩ := (show Execution l ([] ++ call :: rest) l' from h).move_taken
    rw [nothing.eq_of_nil, Option.some.inj called] at taken
    exact behind.running (Loop.running_of_run taken)

/-- Each move of a run is the call, or one of a loop that runs. -/
theorem step_of_mem (h : Execution l moves l') (called : moves.head?.map Move.stimulus = some .run)
    {move : Move} (member : move ∈ moves) :
    move.before.step move.now move.stimulus = some (move.after, move.effects) ∧
      Loop.SameSetup l move.before ∧
      (move.stimulus = .run ∨ move.before.Running l.state.iteration) := by
  obtain ⟨before, behind, rfl⟩ := List.append_of_mem member
  obtain ⟨earlier, taken, -⟩ := h.move_taken
  refine ⟨taken, earlier.sameSetup, ?_⟩
  cases before with
  | nil => exact .inl (Option.some.inj called)
  | cons call rest => exact .inr (earlier.running_of_run called)

end Execution

/-! ## Why a run ends -/

/-- The move ends a run below the limit by a shutdown. -/
structure Move.TakesShutdown (move : Move) : Prop where
  goes : move.before.hasEnded = false
  queued : move.before.queue.head? = some .shutdown
  stopped : move.after.point = .stopped
  below : move.after.limitReached = false

/-- The move ends a requested iteration in the wait, and the clock does not hold the next deadline. -/
structure Move.Overflows (move : Move) : Prop where
  requested : ∃ request, move.before.point.cause? = some (.awaited request)
  settled : verdictsIn move.effects ≠ []
  below : move.after.limitReached = false
  beyond : move.now.after? move.after.nextDelay = none

namespace Loop

variable {l : Loop} {now : Tick} {stimulus : Stimulus} {result : Loop × List Effect}

/-- Why a loop goes no further between two iterations. -/
theorem Continues.ended {behind : Option Cause} (h : l.Continues now behind result)
    (ended : result.1.hasEnded = true) :
    (result.1.point = .stopped ∧
        (l.queue.head? = some .shutdown ∨ result.1.limitReached = true)) ∨
      (result.1.point = .aborted ∧ ∃ request, behind = some (.awaited request)) := by
  cases h with
  | halt why => exact .inl ⟨rfl, why⟩
  | regular empty below => cases ended
  | drained queued below => cases ended
  | wait below => cases ended
  | resume below held => cases ended
  | abort below beyond => exact .inr ⟨rfl, _, rfl⟩

/-- Behind a requested iteration in the wait, below the limit, only the clock ends a loop. -/
theorem aborted_goOn_iff {request : Nat} :
    (l.goOn now (.awaited request)).1.point = .aborted ↔
      (l.goOn now (.awaited request)).1.limitReached = false ∧
        now.after? (l.goOn now (.awaited request)).1.nextDelay = none := by
  show (if l.limitReached then l.halt [] else l.resumeWait now).1.point = .aborted ↔
    (if l.limitReached then l.halt [] else l.resumeWait now).1.limitReached = false ∧
      now.after? (if l.limitReached then l.halt [] else l.resumeWait now).1.nextDelay = none
  -- At the limit the loop halts; below it, only the clock can keep it from the next wait.
  split
  · next reached =>
    have halted : (l.halt []).1.limitReached = true := reached
    rw [halted]
    constructor
    · intro aborted
      cases aborted
    · rintro ⟨below, -⟩
      cases below
  · next below =>
    have below : l.limitReached = false := by simpa using below
    rw [resumeWait]
    cases held : now.after? l.nextDelay with
    | none => exact ⟨fun _ => ⟨below, held⟩, fun _ => rfl⟩
    | some deadline =>
      constructor
      · intro aborted
        cases aborted
      · rintro ⟨-, beyond⟩
        cases held.symm.trans beyond

/-- Why a step ends a loop that holds a sender of its own. -/
theorem Transition.ended (h : l.Transition now stimulus result) (owned : l.keepsSender = true)
    (goes : l.hasEnded = false) (ended : result.1.hasEnded = true) :
    (result.1.point = .stopped ∧
        (l.queue.head? = some .shutdown ∨ result.1.limitReached = true)) ∨
      result.1.point = .aborted := by
  have turned (ended : l.turn.1.hasEnded = true) :
      (l.turn.1.point = .stopped ∧
          (l.queue.head? = some .shutdown ∨ l.turn.1.limitReached = true)) ∨
        l.turn.1.point = .aborted :=
    ((l.continues_turn now none).ended ended).imp_right And.left
  cases h with
  | iterate idle => cases ended
  | run idle => exact turned ended
  | drift reading differs => cases ended
  | @conclude stimulus cause verdict judges =>
    by_cases direct : cause = .direct
    · subst direct
      cases ended
    · have next : (l.judged verdict).Continues now (some cause)
          ((l.judged verdict).goOn now cause) := continues_goOn direct
      have why := next.ended ended
      rw [judged_queue] at why
      exact why.imp_right And.left
  | ring waiting due => exact turned ended
  | desert waiting empty alone =>
    rw [alone] at owned
    cases owned
  | takeShutdown waiting queued => exact .inl ⟨rfl, .inl (by rw [queued]; rfl)⟩
  | takeRequest waiting queued => cases ended
  | refuse ended => exact nomatch goes.symm.trans ended
  | accept goes' => exact nomatch goes.symm.trans ended
  | handleMade => exact nomatch goes.symm.trans ended
  | handleDropped => exact nomatch goes.symm.trans ended

/-- A step gives up a loop exactly where the clock does not hold the next deadline. -/
theorem Transition.aborted_iff (h : l.Transition now stimulus result) (goes : l.hasEnded = false) :
    result.1.point = .aborted ↔ Move.Overflows ⟨l, now, stimulus, result.2, result.1⟩ := by
  rcases h.settles_or with ⟨cause, verdict, judges, rfl⟩ | ⟨nothing, kept⟩
  · have settled : verdictsIn (l.conclude now cause verdict).2 ≠ [] := by
      rw [verdictsIn_conclude]
      exact List.cons_ne_nil _ _
    -- No other iteration is followed by a timer that is set anew.
    by_cases awaited : ∃ request, cause = .awaited request
    · obtain ⟨request, rfl⟩ := awaited
      constructor
      · intro aborted
        obtain ⟨below, beyond⟩ := aborted_goOn_iff.mp aborted
        exact ⟨⟨request, judges.cause?_point⟩, settled, below, beyond⟩
      · rintro ⟨-, -, below, beyond⟩
        exact aborted_goOn_iff.mpr ⟨below, beyond⟩
    · constructor
      · intro aborted
        exfalso
        by_cases direct : cause = .direct
        · subst direct
          cases aborted
        · have ended : (l.conclude now cause verdict).1.hasEnded = true :=
            hasEnded_iff.mpr (.inr aborted)
          have next : (l.judged verdict).Continues now (some cause)
              ((l.judged verdict).goOn now cause) := continues_goOn direct
          rcases next.ended ended with ⟨stopped, -⟩ | ⟨-, request, same⟩
          · exact nomatch stopped.symm.trans aborted
          · exact awaited ⟨request, Option.some.inj same⟩
      · rintro ⟨⟨request, busy⟩, -⟩
        exact absurd ⟨request, Option.some.inj (judges.cause?_point.symm.trans busy)⟩ awaited
  · constructor
    · intro aborted
      have ended := hasEnded_iff.mpr (.inr (kept aborted))
      rw [goes] at ended
      cases ended
    · rintro ⟨-, settled, -⟩
      exact absurd nothing settled

end Loop

/-! ## With a shutdown in the queue -/

/-- The iterations begun by moves: for each the request that it is run for, if it is for one. -/
def begunFor (moves : List Move) : List (Option Nat) :=
  moves.flatMap fun move => (begunIn move.effects).map fun _ => move.after.point.request?

/--
From one list of messages to another, the requests at its head are taken, and these are the ones
that iterations were begun for.
-/
def TakesTo (ahead : List Message) (begun : List (Option Nat)) (left : List Message) : Prop :=
  ∃ taken, ahead = taken ++ left ∧ begun = (requestsIn taken).map some

theorem TakesTo.refl (ahead : List Message) : TakesTo ahead [] ahead := ⟨[], rfl, rfl⟩

theorem TakesTo.trans {ahead left left' : List Message} {begun begun' : List (Option Nat)}
    (h : TakesTo ahead begun left) (h' : TakesTo left begun' left') :
    TakesTo ahead (begun ++ begun') left' := by
  obtain ⟨taken, rfl, rfl⟩ := h
  obtain ⟨taken', rfl, rfl⟩ := h'
  exact ⟨taken ++ taken', by simp, by simp⟩

theorem TakesTo.isPrefix {ahead left : List Message} {begun : List (Option Nat)}
    (h : TakesTo ahead begun left) : begun <+: (requestsIn ahead).map some := by
  obtain ⟨taken, rfl, rfl⟩ := h
  rw [requestsIn_append, List.map_append]
  exact List.prefix_append _ _

namespace Loop

variable {l : Loop} {now : Tick} {stimulus : Stimulus} {result : Loop × List Effect}
  {ahead : List Message}

/-- A shutdown is in the queue behind other messages, or the loop has ended. -/
def Doomed (l : Loop) (ahead : List Message) : Prop :=
  (∃ rest, l.queue = ahead ++ .shutdown :: rest) ∨ l.hasEnded = true

/-- The next thing a loop does: it takes messages from those ahead of a shutdown, for which alone it
begins iterations. -/
def TakesAhead (ahead : List Message) (result : Loop × List Effect) : Prop :=
  ∃ left, TakesTo ahead ((begunIn result.2).map fun _ => result.1.point.request?) left ∧
    result.1.Doomed left

theorem takesAhead_of_quiet (quiet : begunIn result.2 = []) (doomed : result.1.Doomed ahead) :
    TakesAhead ahead result :=
  ⟨ahead, by rw [quiet]; exact .refl ahead, doomed⟩

/-- Where a request is first and a shutdown comes behind, the request is ahead of it. -/
theorem takesAhead_request {request : Nat} {rest rest' : List Message} {cause : Cause}
    (queued : l.queue = .reconcile request :: rest) (shut : l.queue = ahead ++ .shutdown :: rest')
    (for_ : cause.request? = some request) :
    TakesAhead ahead ({ l with queue := rest }.startIteration cause) := by
  rw [queued] at shut
  cases ahead with
  | nil => cases shut
  | cons first left =>
    obtain ⟨rfl, rfl⟩ := List.cons.inj shut
    refine ⟨left, ⟨[.reconcile request], rfl, ?_⟩, .inl ⟨rest', rfl⟩⟩
    show [cause.request?] = _
    rw [for_]
    rfl

theorem Continues.takesAhead {behind : Option Cause} {rest : List Message}
    (h : l.Continues now behind result) (shut : l.queue = ahead ++ .shutdown :: rest) :
    TakesAhead ahead result := by
  cases h with
  | halt why => exact takesAhead_of_quiet (by simp [Loop.halt]) (.inr rfl)
  | regular empty below =>
    rw [empty] at shut
    cases ahead <;> cases shut
  | drained queued below => exact takesAhead_request queued shut rfl
  | wait below => exact takesAhead_of_quiet rfl (.inl ⟨rest, shut⟩)
  | resume below held => exact takesAhead_of_quiet rfl (.inl ⟨rest, shut⟩)
  | abort below beyond => exact takesAhead_of_quiet (by simp) (.inr rfl)

theorem TakesAhead.behind {effects : List Effect} (h : TakesAhead ahead result)
    (quiet : begunIn effects = []) : TakesAhead ahead (result.1, effects ++ result.2) := by
  obtain ⟨left, takes, doomed⟩ := h
  refine ⟨left, ?_, doomed⟩
  rw [begunIn_append, quiet, List.nil_append]
  exact takes

theorem takesAhead_conclude {cause : Cause} {verdict : Verdict} {rest : List Message}
    (shut : l.queue = ahead ++ .shutdown :: rest) :
    TakesAhead ahead (l.conclude now cause verdict) := by
  have next : TakesAhead ahead ((l.judged verdict).goOn now cause) := by
    have shut' : (l.judged verdict).queue = ahead ++ .shutdown :: rest := judged_queue.trans shut
    by_cases h : cause = .direct
    · subst h
      exact takesAhead_of_quiet rfl (.inl ⟨rest, shut'⟩)
    · exact (continues_goOn h).takesAhead shut'
  exact next.behind (cause.begunIn_settled _ verdict _ _)

/-- With a shutdown in the queue, a step begins an iteration only for a request ahead of it. -/
theorem Transition.takesAhead (h : l.Transition now stimulus result) (called : stimulus ≠ .iterate)
    (doomed : l.Doomed ahead) : TakesAhead ahead result := by
  rcases doomed with ⟨rest, shut⟩ | ended
  · have turned : TakesAhead ahead l.turn := (l.continues_turn now none).takesAhead shut
    cases h with
    | iterate idle => exact absurd rfl called
    | run idle =>
      have opening : begunIn [.report (.start l.name l.intent)] = [] := rfl
      exact turned.behind opening
    | drift reading differs => exact takesAhead_of_quiet rfl (.inl ⟨rest, shut⟩)
    | conclude judges => exact takesAhead_conclude shut
    | ring waiting due => exact turned
    | desert waiting empty alone => exact takesAhead_of_quiet (by simp [halt]) (.inr rfl)
    | takeShutdown waiting queued => exact takesAhead_of_quiet (by simp [halt]) (.inr rfl)
    | takeRequest waiting queued => exact takesAhead_request queued shut rfl
    | refuse ended => exact takesAhead_of_quiet (by simp) (.inr ended)
    | @accept message goes =>
      refine takesAhead_of_quiet rfl (.inl ⟨rest ++ [message], ?_⟩)
      simp [shut]
    | handleMade => exact takesAhead_of_quiet rfl (.inl ⟨rest, shut⟩)
    | handleDropped => exact takesAhead_of_quiet rfl (.inl ⟨rest, shut⟩)
  · obtain ⟨point, -, -, -, told⟩ := h.of_ended ended
    have ended' : result.1.hasEnded = true := (hasEnded_congr point).trans ended
    refine takesAhead_of_quiet ?_ (.inr ended')
    rcases told with quiet | ⟨message, -, refused⟩
    · rw [quiet]
      rfl
    · rw [refused]
      simp

end Loop

/-- With a shutdown in the queue, iterations are begun only for requests ahead of it. -/
theorem Execution.takesAhead {l l' : Loop} {moves : List Move} {ahead : List Message}
    (h : Execution l moves l') (called : ∀ move ∈ moves, move.stimulus ≠ .iterate)
    (doomed : l.Doomed ahead) : ∃ left, TakesTo ahead (begunFor moves) left ∧ l'.Doomed left := by
  induction h with
  | start => exact ⟨ahead, .refl ahead, doomed⟩
  | step earlier taken ih =>
    obtain ⟨left, takes, doomed₁⟩ :=
      ih fun move member => called move (List.mem_append_left _ member)
    have last := called _ (List.mem_append_right _ (List.mem_singleton_self _))
    obtain ⟨left', takes', doomed₂⟩ := (Loop.transition_of_step taken).takesAhead last doomed₁
    refine ⟨left', ?_, doomed₂⟩
    rw [begunFor, List.flatMap_append, List.flatMap_singleton]
    exact takes.trans takes'

/-! ## The work of an iteration -/

/-- An effect that is work of the iteration in progress: its reports, its call, and the answer. -/
def Effect.isWork : Effect → Bool
  | .report (.drift _ _) | .apply _ | .returned _ | .reply _ (.ok _) => true
  | .report event => event.verdict?.isSome
  | _ => false

abbrev workIn (effects : List Effect) : List Effect :=
  effects.filter Effect.isWork

/-- When and why moves were made, those left out that bring a message. -/
def quietSchedule (moves : List Move) : List (Tick × Stimulus) :=
  (moves.filter fun move => move.stimulus.message?.isNone).map fun move => (move.now, move.stimulus)

namespace Loop

variable {l : Loop} {now : Tick} {stimulus : Stimulus} {result : Loop × List Effect}
  {cause : Cause} {verdict : Verdict} {number : Nat}

/-- An iteration of this number is in progress. -/
structure Works (l : Loop) (number : Nat) : Prop where
  busy : ∃ cause, l.point.cause? = some cause
  numbered : l.state.iteration = number

@[simp] theorem workIn_unanswered (messages : List Message) : workIn (unanswered messages) = [] := by
  rw [unanswered_eq, workIn, List.filter_eq_nil_iff]
  intro effect member
  obtain ⟨request, -, rfl⟩ := List.mem_map.mp member
  exact nofun

/-- What comes behind an iteration is no work of it. -/
theorem Continues.workIn_eq {behind : Option Cause} (h : l.Continues now behind result) :
    workIn result.2 = [] := by
  cases h with
  | halt why => simp [Loop.halt, Effect.isWork]
  | regular empty below => rfl
  | drained queued below => rfl
  | wait below => rfl
  | resume below held => rfl
  | abort below beyond => simp [Effect.isWork]

theorem Continues.not_works {behind : Option Cause} (h : l.Continues now behind result) :
    ¬result.1.Works l.state.iteration := by
  rintro ⟨⟨cause, busy⟩, same⟩
  cases h with
  | halt why => cases busy
  | regular empty below => exact Nat.succ_ne_self _ same
  | drained queued below => exact Nat.succ_ne_self _ same
  | wait below => cases busy
  | resume below held => cases busy
  | abort below beyond => cases busy

theorem not_works_conclude : ¬(l.conclude now cause verdict).1.Works l.state.iteration := by
  by_cases h : cause = .direct
  · subst h
    rintro ⟨⟨cause, busy⟩, -⟩
    cases busy
  · have next : (l.judged verdict).Continues now (some cause) ((l.judged verdict).goOn now cause) :=
      continues_goOn h
    have idle := next.not_works
    rw [judged_iteration] at idle
    exact idle

theorem workIn_conclude :
    workIn (l.conclude now cause verdict).2 =
      .report (verdict.event l.state.iteration (l.judged verdict).state.consecutiveFailures) ::
        cause.answer verdict.outcome := by
  have next : workIn ((l.judged verdict).goOn now cause).2 = [] := by
    by_cases h : cause = .direct
    · subst h
      rfl
    · exact (continues_goOn h).workIn_eq
  have told (failures : Nat) :
      (Effect.report (verdict.event l.state.iteration failures)).isWork = true := by
    cases verdict <;> rfl
  have answer : workIn (cause.answer verdict.outcome) = cause.answer verdict.outcome := by
    cases cause <;> rfl
  rw [conclude, workIn, List.filter_cons_of_pos (told _), List.filter_append,
    show (cause.answer verdict.outcome).filter Effect.isWork = _ from answer,
    show List.filter Effect.isWork _ = [] from next, List.append_nil]

theorem Judges.setQueue (h : l.Judges now stimulus cause verdict) (queue : List Message) :
    { l with queue }.Judges now stimulus cause verdict := by
  cases h with
  | unread reading => exact .unread reading
  | compliant reading same => exact .compliant reading same
  | applied applying inTime => exact .applied applying inTime
  | failed applying inTime => exact .failed applying inTime
  | timedOut applying late => exact .timedOut applying late

/-- A step in an iteration leaves it in progress, or settles it. -/
theorem Transition.carriesOn (h : l.Transition now stimulus result) (works : l.Works number) :
    result.1.Works number ∨ ∃ outcome, verdictsIn result.2 = [(number, outcome)] := by
  obtain ⟨⟨cause, busy⟩, rfl⟩ := works
  cases h with
  | iterate idle => rw [idle] at busy; cases busy
  | run idle => rw [idle] at busy; cases busy
  | drift reading differs => exact .inl ⟨⟨_, rfl⟩, rfl⟩
  | conclude judges => exact .inr ⟨_, verdictsIn_conclude⟩
  | ring waiting due => rw [waiting] at busy; cases busy
  | desert waiting empty alone => rw [waiting] at busy; cases busy
  | takeShutdown waiting queued => rw [waiting] at busy; cases busy
  | takeRequest waiting queued => rw [waiting] at busy; cases busy
  | refuse ended => exact .inl ⟨⟨cause, busy⟩, rfl⟩
  | accept goes => exact .inl ⟨⟨cause, busy⟩, rfl⟩
  | handleMade => exact .inl ⟨⟨cause, busy⟩, rfl⟩
  | handleDropped => exact .inl ⟨⟨cause, busy⟩, rfl⟩

/-- A message that arrives in an iteration is put into the queue, and does nothing else. -/
theorem Transition.message_in_work (h : l.Transition now stimulus result) (works : l.Works number)
    {message : Message} (brings : stimulus.message? = some message) :
    workIn result.2 = [] ∧ result.1 = { l with queue := l.queue ++ [message] } := by
  obtain ⟨⟨cause, busy⟩, rfl⟩ := works
  cases h with
  | conclude judges => cases judges <;> cases brings
  | refuse ended =>
    rcases hasEnded_iff.mp ended with at_ | at_ <;> rw [at_] at busy <;> cases busy
  | accept goes =>
    cases brings
    exact ⟨rfl, rfl⟩
  | _ => cases brings

/-- The work that a step does in an iteration does not depend on the queue. -/
theorem step_setQueue (h : l.step now stimulus = some result) (works : l.Works number)
    (quiet : stimulus.message? = none) (queue : List Message) :
    ∃ result', { l with queue }.step now stimulus = some result' ∧
      workIn result'.2 = workIn result.2 ∧
      (result.1.Works number → ∃ queue', result'.1 = { result.1 with queue := queue' }) := by
  obtain ⟨⟨cause, busy⟩, rfl⟩ := works
  cases transition_of_step h with
  | iterate idle => rw [idle] at busy; cases busy
  | run idle => rw [idle] at busy; cases busy
  | drift reading differs =>
    exact ⟨_, step_of_drifted (l := { l with queue }) reading differs, rfl, fun _ => ⟨queue, rfl⟩⟩
  | @conclude _ cause verdict judges =>
    refine ⟨_, step_of_judges (judges.setQueue queue), ?_,
      fun works => absurd works not_works_conclude⟩
    rw [workIn_conclude, workIn_conclude]
    cases verdict <;> rfl
  | ring waiting due => rw [waiting] at busy; cases busy
  | desert waiting empty alone => rw [waiting] at busy; cases busy
  | takeShutdown waiting queued => rw [waiting] at busy; cases busy
  | takeRequest waiting queued => rw [waiting] at busy; cases busy
  | refuse ended => cases quiet
  | accept goes => cases quiet
  | handleMade => exact ⟨_, rfl, rfl, fun _ => ⟨queue, rfl⟩⟩
  | handleDropped =>
    have held : l.handles ≠ 0 := by
      intro none
      simp [step, none] at h
    refine ⟨({ l with queue, handles := l.handles - 1 }, []), ?_, rfl, fun _ => ⟨queue, rfl⟩⟩
    simp only [step, if_neg held]

end Loop

namespace Execution

variable {l l' : Loop} {moves : List Move} {number : Nat}

/--
The work of an iteration is the same with any other queue and without the messages that arrive on
the way.
-/
theorem setQueue (h : Execution l moves l') (works : ∀ move ∈ moves, move.before.Works number)
    (queue : List Message) :
    ∃ moves' l'', Execution { l with queue } moves' l'' ∧
      moves'.map (fun move => (move.now, move.stimulus)) = quietSchedule moves ∧
      workIn (effectsOf moves') = workIn (effectsOf moves) ∧
      (l'.Works number → ∃ queue', l'' = { l' with queue := queue' }) := by
  induction h with
  | start => exact ⟨[], _, .start, rfl, rfl, fun _ => ⟨queue, rfl⟩⟩
  | @step moves l₁ l₂ now stimulus effects earlier taken ih =>
    -- A move that brings a message is left out; any other is made again beside the other queue.
    have working : l₁.Works number := works _ (List.mem_append_right _ (List.mem_singleton_self _))
    obtain ⟨moves', l'', execution, schedule, work, same⟩ :=
      ih fun move member => works move (List.mem_append_left _ member)
    obtain ⟨queue', rfl⟩ := same working
    cases brings : stimulus.message? with
    | some message =>
      obtain ⟨quiet, rfl⟩ := (Loop.transition_of_step taken).message_in_work working brings
      refine ⟨moves', _, execution, ?_, ?_, fun _ => ⟨queue', rfl⟩⟩
      · simp [schedule, quietSchedule, brings, -Stimulus.message?]
      · simp only [effectsOf_append, effectsOf_singleton, workIn, List.filter_append]
        rw [show effects.filter Effect.isWork = [] from quiet, List.append_nil]
        exact work
    | none =>
      obtain ⟨⟨l₃, effects'⟩, taken', work', same'⟩ := Loop.step_setQueue taken working brings queue'
      refine ⟨_, l₃, execution.step taken', ?_, ?_, same'⟩
      · simp [schedule, quietSchedule, brings, -Stimulus.message?]
      · simp only [effectsOf_append, effectsOf_singleton, workIn, List.filter_append]
        exact congr (congrArg _ work) work'

end Execution

/-! ## How a run ends -/

/-- A loop that has ended came to its end by one move, and stayed as it was then. -/
theorem Execution.exists_last {l l' : Loop} {moves : List Move} (h : Execution l moves l')
    (goes : l.hasEnded = false) (ended : l'.hasEnded = true) :
    ∃ move ∈ moves, move.before.hasEnded = false ∧ move.after.hasEnded = true ∧
      move.after.limitReached = l'.limitReached := by
  induction h with
  | start => exact nomatch goes.symm.trans ended
  | @step moves l₁ l₂ now stimulus effects earlier taken ih =>
    cases ended₁ : l₁.hasEnded with
    | false => exact ⟨_, List.mem_append_right _ (List.mem_singleton_self _), ended₁, ended, rfl⟩
    | true =>
      obtain ⟨move, member, before, after, limit⟩ := ih ended₁
      refine ⟨move, List.mem_append_left _ member, before, after, limit.trans ?_⟩
      have transition := Loop.transition_of_step taken
      rw [Loop.limitReached, Loop.limitReached, transition.sameSetup.options,
        (transition.of_ended ended₁).2.2.1]

theorem Loop.idle_of_run {l : Loop} {now : Tick} {result : Loop × List Effect}
    (h : l.step now .run = some result) : l.point = .idle := by
  cases transition_of_step h with
  | run idle => exact idle
  | conclude judges => cases judges

theorem Execution.goes_of_run {l l' : Loop} {moves : List Move} (h : Execution l moves l')
    (called : moves.head?.map Move.stimulus = some .run) : l.hasEnded = false := by
  cases moves with
  | nil => cases called
  | cons call rest =>
    obtain ⟨nothing, taken, -⟩ := (show Execution l ([] ++ call :: rest) l' from h).move_taken
    rw [nothing.eq_of_nil, Option.some.inj called] at taken
    rw [Loop.hasEnded, Loop.idle_of_run taken]
    rfl

/-- A run begins no more iterations than are left to the limit, and all of them where it gets there. -/
theorem Execution.count_le {l l' : Loop} {moves : List Move} (h : Execution l moves l')
    (called : moves.head?.map Move.stimulus = some .run) :
    ∃ count, begunIn (effectsOf moves) = List.range' (l.state.iteration + 1) count ∧
      ∀ bound, l.options.maxIterations = some bound →
        count ≤ bound - l.state.iteration ∧
          (l'.limitReached = true → count = bound - l.state.iteration) := by
  obtain ⟨count, counted, begun⟩ := h.begun_eq
  refine ⟨count, begun, fun bound limit => ?_⟩
  have limit' : l'.options.maxIterations = some bound := by
    rw [h.sameSetup.options]
    exact limit
  have bounded : l'.state.iteration ≤ max l.state.iteration bound :=
    (h.running_of_run called).bounded bound limit'
  refine ⟨by omega, fun reached => ?_⟩
  obtain ⟨bound', same, full⟩ := Loop.limitReached_iff.mp reached
  cases limit'.symm.trans same
  omega

/-- A run begins no iteration by a direct call. -/
theorem Execution.ne_iterate {l l' : Loop} {moves : List Move} (h : Execution l moves l')
    (called : moves.head?.map Move.stimulus = some .run) :
    ∀ move ∈ moves, move.stimulus ≠ .iterate := by
  intro move member direct
  obtain ⟨taken, -, run | running⟩ := h.step_of_mem called member
  · cases direct.symm.trans run
  · rw [direct] at taken
    have transition := Loop.transition_of_step taken
    generalize (move.after, move.effects) = result at transition
    cases transition with
    | iterate idle => exact running.called idle
    | conclude judges => cases judges

/-- The loop receives in the wait only what is in the queue. -/
theorem Loop.queue_ne_nil_of_receive {l : Loop} {now : Tick} {result : Loop × List Effect}
    (owned : l.keepsSender = true) (h : l.step now .receive = some result) : l.queue ≠ [] := by
  cases transition_of_step h with
  | conclude judges => cases judges
  | desert waiting empty alone => exact nomatch owned.symm.trans alone
  | takeShutdown waiting queued => exact queued ▸ List.cons_ne_nil _ _
  | takeRequest waiting queued => exact queued ▸ List.cons_ne_nil _ _

/--
A run ends by a shutdown, at the limit, or where the clock does not hold the deadline behind an
iteration requested in the wait; nobody else ends it, and the wait never finds itself without a
sender. It performs no more iterations than are left to the limit, and exactly as many unless it
ends otherwise. From the moment a shutdown is in the queue, iterations are begun only for requests
ahead of it, in their order. An iteration in progress is carried to its end, and what it does is
what it would do with any other queue and without the messages on the way.
-/
theorem run_ends_by_shutdown_limit_or_clock {l l' : Loop} {moves : List Move}
    (owned : l.keepsSender = true) (h : Execution l moves l')
    (called : moves.head?.map Move.stimulus = some .run) :
    (∀ move ∈ moves,
      (move.before.hasEnded = false → move.after.hasEnded = true →
        move.TakesShutdown ∨ (move.after.point = .stopped ∧ move.after.limitReached = true) ∨
          move.Overflows) ∧
      (move.before.hasEnded = false → (move.after.point = .aborted ↔ move.Overflows)) ∧
      (move.stimulus = .receive → move.before.queue ≠ [])) ∧
    (∃ count, begunIn (effectsOf moves) = List.range' (l.state.iteration + 1) count ∧
      ∀ bound, l.options.maxIterations = some bound →
        count ≤ bound - l.state.iteration ∧
        (l'.hasEnded = true → (∀ move ∈ moves, ¬move.TakesShutdown ∧ ¬move.Overflows) →
          count = bound - l.state.iteration)) ∧
    (∀ before behind middle ahead rest, moves = before ++ behind → Execution l before middle →
      Execution middle behind l' → middle.queue = ahead ++ .shutdown :: rest →
        begunFor behind <+: (requestsIn ahead).map some) ∧
    (∀ move ∈ moves, ∀ number, move.before.Works number →
      move.after.Works number ∨ ∃ outcome, verdictsIn move.effects = [(number, outcome)]) ∧
    (∀ middle work last number, Execution middle work last →
      (∀ move ∈ work, move.before.Works number) → ∀ queue, ∃ quiet last',
        Execution { middle with queue } quiet last' ∧
        quiet.map (fun move => (move.now, move.stimulus)) = quietSchedule work ∧
        workIn (effectsOf quiet) = workIn (effectsOf work)) := by
  have ends : ∀ move ∈ moves, move.before.hasEnded = false → move.after.hasEnded = true →
      move.TakesShutdown ∨ (move.after.point = .stopped ∧ move.after.limitReached = true) ∨
        move.Overflows := by
    intro move member goes ended
    obtain ⟨taken, setup, -⟩ := h.step_of_mem called member
    have transition := Loop.transition_of_step taken
    rcases transition.ended (setup.keepsSender.trans owned) goes ended with
      ⟨stopped, why⟩ | aborted
    · cases below : move.after.limitReached with
      | true => exact .inr (.inl ⟨stopped, rfl⟩)
      | false =>
        rcases why with queued | reached
        · exact .inl ⟨goes, queued, stopped, below⟩
        · exact nomatch below.symm.trans reached
    · exact .inr (.inr ((transition.aborted_iff goes).mp aborted))
  refine ⟨fun move member => ⟨ends move member, ?_, ?_⟩, ?_, ?_, ?_, ?_⟩
  · intro goes
    obtain ⟨taken, -, -⟩ := h.step_of_mem called member
    exact (Loop.transition_of_step taken).aborted_iff goes
  · intro receives
    obtain ⟨taken, setup, -⟩ := h.step_of_mem called member
    rw [receives] at taken
    exact Loop.queue_ne_nil_of_receive (setup.keepsSender.trans owned) taken
  · obtain ⟨count, begun, atMost⟩ := h.count_le called
    refine ⟨count, begun, fun bound limit => ⟨(atMost bound limit).1, fun ended otherwise => ?_⟩⟩
    -- The move that ended the run did so at the limit, and the limit is reached from then on.
    obtain ⟨move, member, goes, ended', same⟩ := h.exists_last (h.goes_of_run called) ended
    obtain ⟨notShut, notBeyond⟩ := otherwise move member
    rcases ends move member goes ended' with shut | ⟨-, reached⟩ | beyond
    · exact absurd shut notShut
    · exact (atMost bound limit).2 (same.symm.trans reached)
    · exact absurd beyond notBeyond
  · rintro before behind middle ahead rest rfl - execution shut
    obtain ⟨left, takes, -⟩ := execution.takesAhead
      (fun move member => h.ne_iterate called move (List.mem_append_right _ member))
      (.inl ⟨rest, shut⟩)
    exact takes.isPrefix
  · intro move member number works
    obtain ⟨taken, -, -⟩ := h.step_of_mem called member
    exact (Loop.transition_of_step taken).carriesOn works
  · intro middle work last number execution works queue
    obtain ⟨quiet, last', execution', schedule, same, -⟩ := execution.setQueue works queue
    exact ⟨quiet, last', execution', schedule, same⟩

/-- A shutdown that arrives in an apply ends a run behind it, below the limit. -/
theorem run_takes_shutdown_behind_apply :
    let options : LoopOptions := { LoopOptions.standard with maxIterations := some 3 }
    let l := { Loop.create "router1" .sample options with handles := 1 }
    let run := l.replay
      [(0, .run), (0, .readAnswered (.ok .drifted)), (1, .send .shutdown), (1, .handleDropped),
        (2, .applyAnswered (.ok Intent.sample.state)), (2, .receive)]
    l.keepsSender = true ∧ run.1.head?.map Move.stimulus = some .run ∧
      run.2.point = .stopped ∧ begunIn (effectsOf run.1) = [1] ∧
      ∀ move ∈ run.1, move.before.hasEnded = false → move.after.hasEnded = true →
        move.TakesShutdown ∨ (move.after.point = .stopped ∧ move.after.limitReached = true) ∨
          move.Overflows := by
  intro options l run
  have owned : l.keepsSender = true := rfl
  have called : run.1.head?.map Move.stimulus = some .run := by rfl
  obtain ⟨ends, -⟩ := run_ends_by_shutdown_limit_or_clock owned (.of_replay l _) called
  exact ⟨owned, called, by decide, by decide, fun move member => (ends move member).1⟩

/-- Where the interval is the longest there is, a request in the wait ends a run below its limit. -/
theorem run_given_up_below_limit :
    let options : LoopOptions :=
      { interval := .ofSecs 18446744073709551615
        applyTimeout := .ofMillis 200
        backoff := none
        maxIterations := some 3 }
    let run := { Loop.create "router1" .sample options with handles := 1 }.replay
      [(0, .run), (0, .readAnswered (.ok Intent.sample.state)), (10, .send (.reconcile 1)),
        (10, .receive), (10, .readAnswered (.ok Intent.sample.state)), (20, .send (.reconcile 2))]
    run.2.hasEnded = true ∧ run.2.limitReached = false ∧
      messagesOf run.1 = [.reconcile 1, .reconcile 2] ∧ begunIn (effectsOf run.1) = [1, 2] ∧
      repliesIn (effectsOf run.1) = [(1, .ok .compliant), (2, .error .channelClosed)] := by
  refine ⟨by rfl, by rfl, by rfl, by rfl, by rfl⟩

end ClosedLoop
