import ClosedLoop.Proofs.Stepping
import ClosedLoop.Device.Simulated
import ClosedLoop.Sample

/-!
# What a bound on iterations changes

Two runs that differ only in their bounds, the same device under the same script with each tie
decided the same way, go on in lockstep until the one with the lower bound ends at it. From then on
that run only refuses messages, so that all it did is what the other run did up to the same point.

* `Loop.step_shortens` — one step under two bounds: the same, or an end under the lower one
* `Timeline.Lags.proceed`, `Timeline.Lags.next` — the two timelines stay in this relation
* `Timeline.bound_truncates_run` — the shorter run, but for its end, is how the longer one begins
-/

namespace ClosedLoop

namespace Loop

variable {l : Loop} {now : Tick} {stimulus : Stimulus} {bound : Nat} {higher : Option Nat}

/-! ## Loops under another bound -/

/-- The loop with another bound on its iterations. -/
def rebound (l : Loop) (bound : Option Nat) : Loop :=
  { l with options := { l.options with maxIterations := bound } }

/-- What a step comes to under one bound and under a higher one. -/
inductive Shortens (higher : Option Nat) : Loop × List Effect → Loop × List Effect → Prop where
  | same (result : Loop × List Effect) : Shortens higher result (result.1.rebound higher, result.2)
  | ends {l l' : Loop} {shared more : List Effect} {summary : Summary} {left : List Message}
      (ended : l.hasEnded = true) :
      Shortens higher (l, shared ++ .report (.stopped summary) :: unanswered left)
        (l', shared ++ more)

theorem Shortens.behind {result result' : Loop × List Effect} (h : Shortens higher result result')
    (effects : List Effect) :
    Shortens higher (result.1, effects ++ result.2) (result'.1, effects ++ result'.2) := by
  cases h with
  | same => exact .same (result.1, effects ++ result.2)
  | ends ended =>
    rw [← List.append_assoc, ← List.append_assoc]
    exact .ends ended

/-- A loop with a bound no higher than another one. -/
def BoundedBelow (l : Loop) (higher : Option Nat) : Prop :=
  ∃ bound, l.options.maxIterations = some bound ∧ ∀ bound', higher = some bound' → bound ≤ bound'

theorem BoundedBelow.of_sameSetup {l' : Loop} (lower : l.BoundedBelow higher)
    (setup : SameSetup l l') : l'.BoundedBelow higher := by
  rw [BoundedBelow, setup.options]
  exact lower

/-- Below the lower bound is below the higher one. -/
theorem limitReached_rebound (lower : l.BoundedBelow higher) (below : l.limitReached = false) :
    (l.rebound higher).limitReached = false := by
  obtain ⟨bound, limit, le⟩ := lower
  cases reached : (l.rebound higher).limitReached with
  | false => rfl
  | true =>
    obtain ⟨bound', limit', full⟩ := limitReached_iff.mp reached
    have reached' : l.limitReached = true :=
      limitReached_iff.mpr ⟨bound, limit, Nat.le_trans (le bound' limit') full⟩
    exact nomatch below.symm.trans reached'

theorem shortens_halt (taken : List Message) (result : Loop × List Effect) :
    Shortens higher (l.halt taken) result := by
  show Shortens higher
    ((l.halt taken).1, [] ++ .report (.stopped l.summary) :: unanswered (taken ++ l.queue))
    (result.1, [] ++ result.2)
  exact .ends rfl

/-- A choice at the limit: the loop halts, or both go on. -/
theorem shortens_ite (lower : l.BoundedBelow higher) {taken taken' : List Message}
    {result result' : Loop × List Effect} (goesOn : Shortens higher result result') :
    Shortens higher (if l.limitReached then l.halt taken else result)
      (if (l.rebound higher).limitReached then (l.rebound higher).halt taken' else result') := by
  cases below : l.limitReached with
  | true => exact shortens_halt taken _
  | false =>
    rw [limitReached_rebound lower below]
    exact goesOn

/-! ## One step under two bounds -/

theorem shortens_turn (lower : l.BoundedBelow higher) :
    Shortens higher l.turn (l.rebound higher).turn := by
  have queue : (l.rebound higher).queue = l.queue := rfl
  cases queued : l.queue with
  | nil =>
    simp only [turn, queue, queued]
    exact shortens_ite lower (.same _)
  | cons first rest =>
    cases first with
    | shutdown =>
      simp only [turn, queue, queued]
      exact shortens_halt (l := { l with queue := rest }) [] _
    | reconcile request =>
      simp only [turn, queue, queued]
      exact shortens_ite (l := { l with queue := rest }) lower (.same _)

theorem shortens_goOn (lower : l.BoundedBelow higher) (cause : Cause) :
    Shortens higher (l.goOn now cause) ((l.rebound higher).goOn now cause) := by
  cases cause with
  | direct => exact .same (l.goOn now .direct)
  | regular => exact shortens_ite lower (.same _)
  | drained request => exact shortens_turn lower
  | awaited request =>
    have rearmed (deadline : Option Tick) :
        Shortens higher (l.rearm deadline) ((l.rebound higher).rearm deadline) := by
      cases deadline <;> exact .same _
    exact shortens_ite lower (rearmed _)

theorem judged_rebound (verdict : Verdict) :
    (l.rebound higher).judged verdict = (l.judged verdict).rebound higher := by
  cases verdict <;> rfl

theorem shortens_conclude (lower : l.BoundedBelow higher) (cause : Cause) (verdict : Verdict) :
    Shortens higher (l.conclude now cause verdict)
      ((l.rebound higher).conclude now cause verdict) := by
  have lower' : (l.judged verdict).BoundedBelow higher :=
    lower.of_sameSetup (sameSetup_judged l verdict)
  have next : Shortens higher ((l.judged verdict).goOn now cause)
      (((l.judged verdict).rebound higher).goOn now cause) := shortens_goOn lower' cause
  simp only [conclude, judged_rebound]
  exact next.behind
    (.report (verdict.event l.state.iteration (l.judged verdict).state.consecutiveFailures) ::
      cause.answer verdict.outcome)

theorem shortens_observe (lower : l.BoundedBelow higher) (cause : Cause)
    (result : Except EnforcementError OperationalState) :
    Shortens higher (l.observe now cause result) ((l.rebound higher).observe now cause result) := by
  cases result with
  | error error =>
    rw [observe_error, observe_error]
    exact shortens_conclude lower cause _
  | ok observed =>
    have intent : (l.rebound higher).intent = l.intent := rfl
    cases same : isCompliant l.intent observed with
    | true =>
      rw [observe_of_compliant same, observe_of_compliant (intent.symm ▸ same)]
      exact shortens_conclude lower cause _
    | false =>
      rw [observe_of_drifted same, observe_of_drifted (intent.symm ▸ same)]
      exact .same _

theorem shortens_settle (lower : l.BoundedBelow higher) (cause : Cause)
    (result : Except EnforcementError OperationalState) :
    Shortens higher (l.settle now cause result) ((l.rebound higher).settle now cause result) := by
  cases result with
  | error error =>
    rw [settle_error, settle_error]
    exact shortens_conclude lower cause _
  | ok state =>
    rw [settle_ok, settle_ok]
    exact shortens_conclude lower cause _

theorem send_rebound (message : Message) :
    (l.rebound higher).send message = ((l.send message).1.rebound higher, (l.send message).2) := by
  have ended : (l.rebound higher).hasEnded = l.hasEnded := rfl
  rw [send, send, ended]
  split <;> rfl

theorem shortens_takeMessage (l : Loop) (higher : Option Nat) :
    Option.Rel (Shortens higher) l.takeMessage (l.rebound higher).takeMessage := by
  have queue : (l.rebound higher).queue = l.queue := rfl
  cases queued : l.queue with
  | nil =>
    have handles : (l.rebound higher).handles = l.handles := rfl
    have keepsSender : (l.rebound higher).keepsSender = l.keepsSender := rfl
    simp only [takeMessage, queue, queued, handles, keepsSender]
    split
    · exact .some (shortens_halt [] _)
    · exact .none
  | cons first rest =>
    cases first with
    | shutdown =>
      simp only [takeMessage, queue, queued]
      exact .some (shortens_halt (l := { l with queue := rest }) [] _)
    | reconcile request =>
      simp only [takeMessage, queue, queued]
      exact .some (.same _)

/-- A step under two bounds: it cannot be taken, or it is the same, or the lower bound ends it. -/
theorem step_shortens (lower : l.BoundedBelow higher) (stimulus : Stimulus) :
    Option.Rel (Shortens higher) (l.step now stimulus) ((l.rebound higher).step now stimulus) := by
  have point : (l.rebound higher).point = l.point := rfl
  have handles : (l.rebound higher).handles = l.handles := rfl
  have timeout : (l.rebound higher).options.applyTimeout = l.options.applyTimeout := rfl
  cases stimulus with
  | iterate =>
    simp only [step, point]
    split
    · exact .some (.same _)
    · exact .none
  | run =>
    simp only [step, point]
    split
    · exact .some ((shortens_turn lower).behind [.report (.start l.name l.intent)])
    · exact .none
  | readAnswered result =>
    simp only [step, point]
    split
    · exact .some (shortens_observe lower _ result)
    · exact .none
  | applyAnswered result =>
    simp only [step, point]
    split
    · split
      · exact .some (shortens_settle lower _ result)
      · exact .none
    · exact .none
  | timeUp =>
    simp only [step, point, timeout]
    split
    · split
      · exact .some (shortens_settle lower _ _)
      · exact .none
    · split
      · exact .some (shortens_turn lower)
      · exact .none
    · exact .none
  | receive =>
    simp only [step, point]
    split
    · exact shortens_takeMessage l higher
    · exact .none
  | send message =>
    simp only [step, handles, send_rebound]
    split
    · exact .none
    · exact .some (.same _)
  | handleMade => exact .some (.same _)
  | handleDropped =>
    simp only [step, handles]
    split
    · exact .none
    · exact .some (.same ({ l with handles := l.handles - 1 }, []))

end Loop

namespace Timeline

variable {δ : Type} [Device δ] {messageFirst : Tick → Bool} {s t : Timeline δ} {higher : Option Nat}

/-! ## Timelines under another bound -/

/-- The timeline of the loop with another bound. -/
def rebound (t : Timeline δ) (bound : Option Nat) : Timeline δ :=
  { t with loop := t.loop.rebound bound }

theorem perform_rebound (effect : Effect) :
    (t.rebound higher).perform effect = (t.perform effect).rebound higher := by
  cases effect <;> rfl

theorem performAll_rebound (effects : List Effect) :
    (t.rebound higher).performAll effects = (t.performAll effects).rebound higher := by
  induction effects generalizing t with
  | nil => rfl
  | cons effect effects ih => rw [performAll_cons, performAll_cons, perform_rebound, ih]

/--
A timeline and one under a higher bound: they differ in nothing else, or the loop of the first has
stopped, and all that it did before belongs to the history of the other.
-/
inductive Lags (higher : Option Nat) : Timeline δ → Timeline δ → Prop where
  | lockstep {t : Timeline δ} (lower : t.loop.BoundedBelow higher) : Lags higher t (t.rebound higher)
  | stopped {s t : Timeline δ} {shared : List (Tick × Effect)} {time : Tick} {summary : Summary}
      (refuses : s.Refuses (shared ++ [(time, .report (.stopped summary))]))
      (kept : shared <+: t.history) : Lags higher s t

/-- What two steps come to carries over to the timelines. -/
theorem lags_of_shortens {result result' : Loop × List Effect}
    (lower : result.1.BoundedBelow higher) (h : Loop.Shortens higher result result') :
    Lags higher ({ t with loop := result.1 }.performAll result.2)
      ({ t.rebound higher with loop := result'.1 }.performAll result'.2) := by
  cases h with
  | same =>
    have lower' : ({ t with loop := result.1 }.performAll result.2).loop.BoundedBelow higher := by
      rw [performAll_loop]
      exact lower
    have long : ({ t with loop := result.1 }.rebound higher).performAll result.2 =
        ({ t with loop := result.1 }.performAll result.2).rebound higher := performAll_rebound _
    exact long ▸ .lockstep lower'
  | @ends l l' shared more summary left ended =>
    have refuses : ({ t with loop := l }.performAll
        (shared ++ Effect.report (.stopped summary) :: Loop.unanswered left)).Refuses
        (t.history ++ stamped t.now shared ++ [(t.now, Effect.report (.stopped summary))]) := by
      refine ⟨?_, stamped t.now (Loop.unanswered left), ?_, isRefusal_of_mem_unanswered⟩
      · rw [performAll_loop]
        exact ended
      · rw [history_performAll]
        simp [stamped, history]
    refine .stopped refuses ?_
    rw [history_performAll]
    show t.history ++ stamped t.now shared <+: t.history ++ stamped t.now (shared ++ more)
    rw [stamped, stamped, List.map_append, ← List.append_assoc]
    exact List.prefix_append _ _

theorem lags_feed (lower : t.loop.BoundedBelow higher) (stimulus : Stimulus) :
    Lags higher (t.feed stimulus) ((t.rebound higher).feed stimulus) := by
  have both : Option.Rel (Loop.Shortens higher) (t.loop.step t.now stimulus)
      ((t.rebound higher).loop.step (t.rebound higher).now stimulus) :=
    Loop.step_shortens lower stimulus
  cases short : t.loop.step t.now stimulus with
  | none =>
    cases long : (t.rebound higher).loop.step (t.rebound higher).now stimulus with
    | none =>
      rw [feed_of_none short, feed_of_none long]
      exact .lockstep lower
    | some result =>
      rw [short, long] at both
      cases both
  | some result =>
    cases long : (t.rebound higher).loop.step (t.rebound higher).now stimulus with
    | none =>
      rw [short, long] at both
      cases both
    | some result' =>
      have lower' : result.1.BoundedBelow higher :=
        lower.of_sameSetup (Loop.transition_of_step short).sameSetup
      rw [short, long] at both
      rw [feed_of_step short, feed_of_step long]
      cases both with
      | some shortens => exact lags_of_shortens lower' shortens

theorem lags_happen (lower : t.loop.BoundedBelow higher) (due : Due) :
    Lags higher (t.happen due) ((t.rebound higher).happen due) := by
  cases due with
  | answer call =>
    have point : (t.rebound higher).loop.point = t.loop.point := rfl
    simp only [happen, answer, point]
    split
    · exact lags_feed (t := { t with call := none, device := _ }) lower _
    · exact lags_feed (t := { t with call := none }) lower _
  | timeUp => exact lags_feed (t := { t with call := none }) lower _
  | receive => exact lags_feed lower _

/-! ## The script under another bound -/

theorem act_rebound (action : Action δ) :
    (t.rebound higher).act action = (t.act action).rebound higher := by
  cases action with
  | change edit => rfl
  | send message =>
    have handles : (t.rebound higher).loop.handles = t.loop.handles := rfl
    by_cases none : t.loop.handles = 0
    · have short : t.loop.step t.now (.send message) = .none := by simp only [Loop.step, if_pos none]
      have long : (t.rebound higher).loop.step t.now (.send message) = .none := by
        simp only [Loop.step, handles, if_pos none]
      rw [act, act, feed_of_none short, feed_of_none long]
    · have short : t.loop.step t.now (.send message) = some (t.loop.send message) := by
        simp only [Loop.step, if_neg none]
      have long : (t.rebound higher).loop.step t.now (.send message) =
          some ((t.loop.send message).1.rebound higher, (t.loop.send message).2) := by
        simp only [Loop.step, handles, if_neg none]
        rw [← Loop.send_rebound]
        rfl
      rw [act, act, feed_of_step short, feed_of_step long]
      exact performAll_rebound (t := { t with loop := (t.loop.send message).1 }) _

theorem play_rebound (script : List (Planned δ)) :
    (t.rebound higher).play script = (t.play script).rebound higher := by
  induction script generalizing t with
  | nil => rfl
  | cons planned rest ih =>
    have now : (t.rebound higher).now = t.now := rfl
    simp only [play, now]
    split
    · rw [act_rebound, ih]
    · rfl

/-! ## Two runs -/

theorem lags_happenAt (lower : t.loop.BoundedBelow higher) (now : Tick) (due : Due) :
    Lags higher ({ t with now }.happen due) ({ t.rebound higher with now }.happen due) :=
  lags_happen (t := { t with now }) lower due

theorem lags_next_rebound (lower : t.loop.BoundedBelow higher) :
    Lags higher (t.next messageFirst) ((t.rebound higher).next messageFirst) := by
  have next : (t.rebound higher).next? messageFirst = t.next? messageFirst := rfl
  have script : (t.rebound higher).script = t.script := rfl
  have now : (t.rebound higher).now = t.now := rfl
  have played (time : Tick) : Lags higher ({ t with now := time }.play t.script)
      ({ t.rebound higher with now := time }.play t.script) := by
    have same : ({ t with now := time }.rebound higher).play t.script =
        ({ t with now := time }.play t.script).rebound higher := play_rebound _
    have setup : Loop.SameSetup t.loop ({ t with now := time }.play t.script).loop :=
      sameSetup_play (t := { t with now := time }) t.script
    exact same ▸ .lockstep (lower.of_sameSetup setup)
  -- What is due, and when, does not depend on the bound, so that both take the same branch.
  simp only [Timeline.next, step?, next, script, now]
  split
  · exact lags_happenAt lower _ _
  · split
    · exact lags_happenAt lower _ _
    · exact played _
  · exact played _
  · exact .lockstep lower

theorem lags_proceed_rebound (lower : t.loop.BoundedBelow higher) (choice : Choice) :
    Lags higher (t.proceed choice) ((t.rebound higher).proceed choice) := by
  have next (messageFirst : Tick → Bool) :
      (t.rebound higher).next? messageFirst = t.next? messageFirst := rfl
  have script : (t.rebound higher).script = t.script := rfl
  have now : (t.rebound higher).now = t.now := rfl
  have played (planned : Planned δ) (rest : List (Planned δ)) :
      Lags higher (t.playFirst planned rest) ((t.rebound higher).playFirst planned rest) := by
    have same : (t.rebound higher).playFirst planned rest =
        (t.playFirst planned rest).rebound higher :=
      act_rebound (t := { t with now := max t.now planned.time, script := rest }) planned.action
    have setup : Loop.SameSetup t.loop (t.playFirst planned rest).loop :=
      sameSetup_act (t := { t with now := max t.now planned.time, script := rest }) planned.action
    exact same ▸ .lockstep (lower.of_sameSetup setup)
  -- Nor does the choice to be made, so that both resolve a tie the same way.
  simp only [proceed, next, script, now]
  split
  · exact lags_happenAt lower _ _
  · split
    · exact lags_happenAt lower _ _
    · exact played _ _
  · exact played _ _
  · exact .lockstep lower

/-- The next thing that happens on either timeline leaves the first behind the other. -/
theorem Lags.next (h : Lags higher s t) :
    Lags higher (s.next messageFirst) (t.next messageFirst) := by
  cases h with
  | lockstep lower => exact lags_next_rebound lower
  | stopped refuses kept => exact .stopped refuses.next (kept.trans history_next)

theorem Lags.after (h : Lags higher s t) (steps : Nat) :
    Lags higher (s.after messageFirst steps) (t.after messageFirst steps) := by
  induction steps generalizing s t with
  | zero => exact h
  | succ steps ih => exact ih h.next

/-- So does the next thing under the same choice at ties. -/
theorem Lags.proceed (h : Lags higher s t) (choice : Choice) :
    Lags higher (s.proceed choice) (t.proceed choice) := by
  cases h with
  | lockstep lower => exact lags_proceed_rebound lower choice
  | stopped refuses kept =>
    exact .stopped (refuses.proceed choice) (kept.trans (history_proceed choice))

theorem Lags.along (h : Lags higher s t) (choices : List Choice) :
    Lags higher (s.along choices) (t.along choices) := by
  induction choices generalizing s t with
  | nil => exact h
  | cons choice choices ih => exact ih (h.proceed choice)

/-! ## What two runs show -/

/-- The call to run, with a script of what others do. -/
def start (t : Timeline δ) (script : List (Planned δ)) : Timeline δ :=
  { t with script }.feed .run

/-- The event that is reported, with the time. -/
def event? : Tick × Effect → Option (Tick × Event)
  | (time, .report event) => some (time, event)
  | _ => none

/-- A request answered with an outcome, with the time. -/
def answered? : Tick × Effect → Option (Tick × Nat × Outcome)
  | (time, .reply request (.ok outcome)) => some (time, request, outcome)
  | _ => none

/--
All that the first timeline shows, but for the report that it has stopped at its end, is what the
other one shows first.
-/
structure Truncates (short long : Timeline δ) : Prop where
  events : short.events <+: long.events ∨
    ∃ shared time summary, short.events = shared ++ [(time, .stopped summary)] ∧
      shared <+: long.events
  calls : (short.history.filter fun entry => entry.2.isCall) <+:
    long.history.filter fun entry => entry.2.isCall
  answers : short.history.filterMap answered? <+: long.history.filterMap answered?

omit [Device δ] in
theorem events_eq (t : Timeline δ) : t.events = t.history.filterMap event? := rfl

/-- Refusals show nothing. -/
theorem shows_nothing_of_refusals {refusals : List (Tick × Effect)}
    (only : ∀ entry ∈ refusals, isRefusal entry = true) :
    refusals.filterMap event? = [] ∧ (refusals.filter fun entry => entry.2.isCall) = [] ∧
      refusals.filterMap answered? = [] := by
  have each : ∀ entry, isRefusal entry = true →
      event? entry = none ∧ entry.2.isCall = false ∧ answered? entry = none := by
    rintro ⟨time, effect⟩ refusal
    cases effect with
    | refused message => exact ⟨rfl, rfl, rfl⟩
    | reply request result =>
      cases result with
      | error error => exact ⟨rfl, rfl, rfl⟩
      | ok outcome => cases refusal
    | _ => cases refusal
  refine ⟨?_, ?_, ?_⟩
  · exact List.filterMap_eq_nil_iff.mpr fun entry member => (each entry (only entry member)).1
  · refine List.filter_eq_nil_iff.mpr fun entry member => ?_
    rw [(each entry (only entry member)).2.1]
    exact nofun
  · exact List.filterMap_eq_nil_iff.mpr fun entry member => (each entry (only entry member)).2.2

omit [Device δ] in
theorem Lags.truncates (h : Lags higher s t) {t' : Timeline δ} (later : t.history <+: t'.history) :
    Truncates s t' := by
  cases h with
  | lockstep lower => exact ⟨.inl (later.filterMap _), later.filter _, later.filterMap _⟩
  | @stopped _ shared time summary refuses kept =>
    obtain ⟨refusals, told, only⟩ := refuses.only
    obtain ⟨noEvents, noCalls, noAnswers⟩ := shows_nothing_of_refusals only
    have kept' : shared <+: t'.history := kept.trans later
    refine ⟨.inr ⟨shared.filterMap event?, time, summary, ?_, ?_⟩, ?_, ?_⟩
    · rw [events_eq, told, List.filterMap_append, List.filterMap_append, noEvents, List.append_nil]
      rfl
    · exact kept'.filterMap _
    · rw [told, List.filter_append, List.filter_append, noCalls, List.append_nil,
        show [(time, Effect.report (.stopped summary))].filter (·.2.isCall) = [] from rfl,
        List.append_nil]
      exact kept'.filter _
    · rw [told, List.filterMap_append, List.filterMap_append, noAnswers, List.append_nil,
        show [(time, Effect.report (.stopped summary))].filterMap answered? = [] from rfl,
        List.append_nil]
      exact kept'.filterMap _

/-- The same run under two bounds is the same up to the end under the lower one. -/
theorem lags_start (lower : t.loop.BoundedBelow higher) (script : List (Planned δ)) :
    Lags higher (t.start script) ((t.rebound higher).start script) :=
  lags_feed (t := { t with script }) lower .run

/--
The bound on iterations only truncates. Under any device, script and choices at ties, which two runs
have in common as far as both go, what the run with a bound has shown, but for the report that it
has stopped, is what the run with a higher bound, or none, shows first. A whole run by `run?` is one
under some choices, and for two of these it is the same.
-/
theorem bound_truncates_run (t : Timeline δ) (script : List (Planned δ)) {bound : Nat}
    {higher : Option Nat} (le : ∀ bound', higher = some bound' → bound ≤ bound') :
    (∀ choices more,
      Truncates (((t.rebound (some bound)).start script).along choices)
        (((t.rebound higher).start script).along (choices ++ more))) ∧
    (∀ messageFirst fuel final, t.run? messageFirst fuel script = some final →
      ∃ choices, final = (t.start script).along choices) ∧
    (∀ messageFirst fuel fuel' short long,
      (t.rebound (some bound)).run? messageFirst fuel script = some short →
        (t.rebound higher).run? messageFirst fuel' script = some long → Truncates short long) := by
  have lower : (t.rebound (some bound)).loop.BoundedBelow higher := ⟨bound, rfl, le⟩
  have started : Lags higher ((t.rebound (some bound)).start script)
      ((t.rebound higher).start script) := lags_start lower script
  refine ⟨?_, ?_, ?_⟩
  · intro choices more
    -- The longer run has only more behind what it did under the same choices.
    rw [along_append]
    exact (started.along choices).truncates (history_along more)
  · intro messageFirst fuel final ran
    obtain ⟨rfl, -⟩ := settle?_eq_after ran
    exact exists_along_of_after messageFirst (t.start script) fuel
  · intro messageFirst fuel fuel' short long ran ran'
    obtain ⟨rfl, done⟩ := settle?_eq_after ran
    obtain ⟨rfl, done'⟩ := settle?_eq_after ran'
    have still : ((t.rebound higher).start script).after messageFirst (fuel' + fuel) =
        ((t.rebound higher).start script).after messageFirst fuel' := by
      rw [after_add]
      exact after_of_step?_eq_none done' fuel
    refine (started.after fuel).truncates (still ▸ ?_)
    rw [Nat.add_comm, after_add]
    exact history_after fuel'

/--
A request that comes with the deadline of the first wait. Served from the wait, it is answered
before the deadline is set anew, and a third iteration follows at the new one; served behind the
deadline, it has a third iteration at once behind it; and if it comes behind the second iteration,
only the run that goes on to a third one serves it.
-/
theorem bound_two_truncates_three :
    let t : Timeline SimulatedDevice := .create ⟨"router1", "sim", .drifted, 0⟩ .sample .standard
    let script : List (Planned SimulatedDevice) := [⟨5000, .send (.reconcile 7)⟩]
    let short (choice : Choice) :=
      ((t.rebound (some 2)).start script).along (List.replicate 6 choice)
    let long (choice : Choice) :=
      ((t.rebound (some 3)).start script).along
        (List.replicate 6 choice ++ List.replicate 2 choice)
    ((short ⟨true, true⟩).history.filterMap answered? = [(5000, 7, .compliant)] ∧
        (long ⟨true, true⟩).endedAt? = some 10000 ∧
        Truncates (short ⟨true, true⟩) (long ⟨true, true⟩)) ∧
      ((short ⟨true, false⟩).history.filterMap answered? = [(5000, 7, .compliant)] ∧
        (long ⟨true, false⟩).endedAt? = some 5000 ∧
        Truncates (short ⟨true, false⟩) (long ⟨true, false⟩)) ∧
      ((short ⟨false, true⟩).history.filterMap answered? = [] ∧
        (long ⟨false, true⟩).history.filterMap answered? = [(5000, 7, .compliant)] ∧
        Truncates (short ⟨false, true⟩) (long ⟨false, true⟩)) ∧
      ∃ short' long', (t.rebound (some 2)).run? (fun _ => true) 8 script = some short' ∧
        (t.rebound (some 3)).run? (fun _ => true) 8 script = some long' ∧
        Truncates short' long' := by
  intro t script short long
  have le : ∀ bound', some 3 = some bound' → 2 ≤ bound' := by
    intro bound' same
    cases same
    decide
  have truncates (choice : Choice) : Truncates (short choice) (long choice) :=
    (bound_truncates_run t script le).1 _ _
  have settles : ((t.rebound (some 2)).run? (fun _ => true) 8 script).isSome = true := by decide
  have settles' : ((t.rebound (some 3)).run? (fun _ => true) 8 script).isSome = true := by decide
  obtain ⟨short', ran⟩ := Option.isSome_iff_exists.mp settles
  obtain ⟨long', ran'⟩ := Option.isSome_iff_exists.mp settles'
  exact ⟨⟨by decide, by decide, truncates _⟩, ⟨by decide, by decide, truncates _⟩,
    ⟨by decide, by decide, truncates _⟩, short', long', ran, ran',
    (bound_truncates_run t script le).2.2 _ 8 8 short' long' ran ran'⟩

end Timeline

end ClosedLoop
