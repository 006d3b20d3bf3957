import ClosedLoop.Proofs.Execution

/-!
# Steps and iterations

To the iterations of a loop, a step is one of a few things: it begins one, finds the device drifted
in it, settles it, or leaves them alone. What each of these keeps, every execution keeps.

* `Loop.Proceeds` — outside an iteration a loop begins the next one, or rests
* `Loop.Transition.progress` — what a step is to the iterations of a loop
* `Stage` — how far an iteration is, and `Loop.told` what its end tells
* `Throughout`, `numbered` — what is so at each position of a history, and how one is told in order
* `Kept.of_execution` — what is kept by each of these holds after every execution
-/

namespace ClosedLoop

attribute [local simp] List.filterMap_cons

/-! ## Effects outside iterations -/

/-- An effect that neither calls the device nor tells of an iteration. -/
def Effect.isIdle : Effect → Bool
  | .report (.start _ _) | .report (.waiting _) | .report (.stopped _) => true
  | .accepted _ | .refused _ | .reply _ (.error _) => true
  | _ => false

theorem Effect.of_isIdle {effect : Effect} (idle : effect.isIdle = true) :
    effect.begun? = none ∧ effect.verdict? = none ∧ effect.outcome? = none ∧
      effect.isCall = false := by
  cases effect with
  | report event => cases event <;> first | exact ⟨rfl, rfl, rfl, rfl⟩ | cases idle
  | reply request result =>
    cases result with
    | error error => exact ⟨rfl, rfl, rfl, rfl⟩
    | ok outcome => cases idle
  | accepted message => exact ⟨rfl, rfl, rfl, rfl⟩
  | refused message => exact ⟨rfl, rfl, rfl, rfl⟩
  | _ => cases idle

/-- None of the effects calls the device or tells of an iteration. -/
def Idle (effects : List Effect) : Prop :=
  ∀ effect ∈ effects, effect.isIdle = true

theorem Idle.begunIn_eq {effects : List Effect} (idle : Idle effects) : begunIn effects = [] :=
  List.filterMap_eq_nil_iff.mpr fun effect member => (Effect.of_isIdle (idle effect member)).1

theorem Idle.verdictsIn_eq {effects : List Effect} (idle : Idle effects) :
    verdictsIn effects = [] :=
  List.filterMap_eq_nil_iff.mpr fun effect member => (Effect.of_isIdle (idle effect member)).2.1

theorem idle_unanswered (messages : List Message) : Idle (Loop.unanswered messages) := by
  intro effect member
  rw [Loop.unanswered_eq] at member
  obtain ⟨request, -, rfl⟩ := List.mem_map.mp member
  rfl

theorem idle_cons {effect : Effect} {effects : List Effect} (first : effect.isIdle = true)
    (rest : Idle effects) : Idle (effect :: effects) :=
  List.forall_mem_cons.mpr ⟨first, rest⟩

theorem idle_nil : Idle [] := nofun

namespace Loop

variable {l l' : Loop} {now : Tick} {stimulus : Stimulus} {result : Loop × List Effect}

/-- The loops have the same intent, options and counts. -/
structure SameBooks (l l' : Loop) : Prop where
  intent : l'.intent = l.intent
  options : l'.options = l.options
  iteration : l'.state.iteration = l.state.iteration
  failures : l'.state.consecutiveFailures = l.state.consecutiveFailures
  summary : l'.summary = l.summary

theorem SameBooks.refl (l : Loop) : SameBooks l l := ⟨rfl, rfl, rfl, rfl, rfl⟩

/-- Every wait that is told of is as long as the loop calls for. -/
def Waits (l : Loop) (effects : List Effect) : Prop :=
  ∀ delay, .report (.waiting delay) ∈ effects → delay = l.nextDelay

theorem waits_nil : l.Waits [] := nofun

theorem waits_cons {effect : Effect} {effects : List Effect} (rest : l.Waits effects)
    (first : ∀ delay, effect = .report (.waiting delay) → delay = l.nextDelay) :
    l.Waits (effect :: effects) := by
  intro delay member
  rcases List.mem_cons.mp member with here | behind
  · exact first delay here.symm
  · exact rest delay behind

theorem waits_unanswered (messages : List Message) : l.Waits (unanswered messages) :=
  fun _ member => absurd member (report_not_mem_unanswered messages _)

/-- The delay that a loop calls for is told of last, but for answers. -/
theorem waits_waiting (messages : List Message) :
    l.Waits (.report (.waiting l.nextDelay) :: unanswered messages) :=
  waits_cons (waits_unanswered messages) fun _ same => by
    cases same
    rfl

/-- Outside an iteration a loop begins the next one, or rests. -/
inductive Proceeds (l : Loop) : Loop × List Effect → Prop where
  | rests {l' : Loop} {effects : List Effect} (same : SameBooks l l')
      (free : l'.point.cause? = none) (idle : Idle effects) (waits : l.Waits effects) :
      Proceeds l (l', effects)
  | begins {l' : Loop} {effects : List Effect} {cause : Cause} (same : SameBooks l l')
      (idle : Idle effects) (waits : l.Waits effects) :
      Proceeds l ((l'.startIteration cause).1, effects ++ (l'.startIteration cause).2)

theorem proceeds_begin (same : SameBooks l l') (cause : Cause) :
    l.Proceeds (l'.startIteration cause) :=
  .begins same idle_nil waits_nil

theorem proceeds_take (rest : List Message) (cause : Cause) :
    l.Proceeds ({ l with queue := rest }.startIteration cause) :=
  have same : SameBooks l { l with queue := rest } := ⟨rfl, rfl, rfl, rfl, rfl⟩
  proceeds_begin same cause

theorem proceeds_halt : l.Proceeds (l.halt []) :=
  .rests ⟨rfl, rfl, rfl, rfl, rfl⟩ rfl (idle_cons rfl (idle_unanswered _))
    (waits_cons (waits_unanswered _) nofun)

theorem Continues.proceeds {behind : Option Cause} (h : l.Continues now behind result) :
    l.Proceeds result := by
  cases h with
  | halt why => exact proceeds_halt
  | regular empty below => exact proceeds_begin (.refl l) _
  | drained queued below => exact proceeds_take _ _
  | wait below =>
    exact .rests ⟨rfl, rfl, rfl, rfl, rfl⟩ rfl (idle_cons rfl idle_nil) (waits_waiting [])
  | resume below held =>
    exact .rests ⟨rfl, rfl, rfl, rfl, rfl⟩ rfl (idle_cons rfl idle_nil) (waits_waiting [])
  | abort below beyond =>
    exact .rests ⟨rfl, rfl, rfl, rfl, rfl⟩ rfl (idle_cons rfl (idle_unanswered _))
      (waits_waiting l.queue)

/-- A run tells of its start first. -/
theorem Proceeds.behind_start (h : l.Proceeds result) (name : String) (intent : Intent) :
    l.Proceeds (result.1, .report (.start name intent) :: result.2) := by
  cases h with
  | rests same free rest waits =>
    exact .rests same free (idle_cons rfl rest) (waits_cons waits nofun)
  | begins same rest waits => exact .begins same (idle_cons rfl rest) (waits_cons waits nofun)

theorem proceeds_goOn (cause : Cause) : l.Proceeds (l.goOn now cause) := by
  by_cases direct : cause = .direct
  · subst direct
    exact .rests ⟨rfl, rfl, rfl, rfl, rfl⟩ rfl idle_nil waits_nil
  · exact (continues_goOn direct).proceeds

theorem proceeds_turn : l.Proceeds l.turn := (l.continues_turn 0 none).proceeds

/-- A step of a loop outside an iteration. -/
theorem Transition.proceeds (h : l.Transition now stimulus result)
    (free : l.point.cause? = none) : l.Proceeds result := by
  cases h with
  | iterate idle => exact proceeds_begin (.refl l) _
  | run idle => exact proceeds_turn.behind_start _ _
  | drift reading differs =>
    rw [reading] at free
    cases free
  | conclude judges => exact nomatch judges.cause?_point.symm.trans free
  | ring waiting due => exact proceeds_turn
  | desert waiting empty alone => exact proceeds_halt
  | takeShutdown waiting queued => exact proceeds_halt
  | takeRequest waiting queued => exact proceeds_take _ _
  | refuse ended =>
    exact .rests (.refl l) free (idle_cons rfl (idle_unanswered _))
      (waits_cons (waits_unanswered _) nofun)
  | accept goes =>
    exact .rests ⟨rfl, rfl, rfl, rfl, rfl⟩ free (idle_cons rfl idle_nil)
      (waits_cons waits_nil nofun)
  | handleMade => exact .rests ⟨rfl, rfl, rfl, rfl, rfl⟩ free idle_nil waits_nil
  | handleDropped => exact .rests ⟨rfl, rfl, rfl, rfl, rfl⟩ free idle_nil waits_nil

/-- What others do in an iteration leaves it as it is. -/
theorem Transition.outside {cause : Cause} (h : l.Transition now stimulus result)
    (outside : stimulus.isOutside = true) (busy : l.point.cause? = some cause) :
    SameBooks l result.1 ∧ result.1.point = l.point ∧ Idle result.2 ∧ l.Waits result.2 := by
  cases h with
  | iterate idle =>
    rw [idle] at busy
    cases busy
  | run idle =>
    rw [idle] at busy
    cases busy
  | refuse ended =>
    exact ⟨.refl l, rfl, idle_cons rfl (idle_unanswered _), waits_cons (waits_unanswered _) nofun⟩
  | accept goes =>
    exact ⟨⟨rfl, rfl, rfl, rfl, rfl⟩, rfl, idle_cons rfl idle_nil, waits_cons waits_nil nofun⟩
  | handleMade => exact ⟨⟨rfl, rfl, rfl, rfl, rfl⟩, rfl, idle_nil, waits_nil⟩
  | handleDropped => exact ⟨⟨rfl, rfl, rfl, rfl, rfl⟩, rfl, idle_nil, waits_nil⟩
  | conclude judges => cases judges <;> cases outside
  | _ => cases outside

/-! ## What a step is to the iterations -/

/-- All that a step can be to the iterations of a loop. -/
inductive Progress (l : Loop) (now : Tick) : Stimulus → Loop × List Effect → Prop where
  | proceeds {stimulus : Stimulus} {result : Loop × List Effect} (free : l.point.cause? = none)
      (proceeds : l.Proceeds result) : Progress l now stimulus result
  | beside {stimulus : Stimulus} {l' : Loop} {effects : List Effect} {cause : Cause}
      (busy : l.point.cause? = some cause) (outside : stimulus.isOutside = true)
      (same : SameBooks l l') (point : l'.point = l.point) (idle : Idle effects)
      (waits : l.Waits effects) : Progress l now stimulus (l', effects)
  | drifts {cause : Cause} {observed : OperationalState} (reading : l.point = .reading cause)
      (differs : observed ≠ l.intent.state) :
      Progress l now (.readAnswered (.ok observed))
        ({ l with
            state := l.state.startApplying
            point := .applying cause (now.sleepEnd l.options.applyTimeout) },
          [.report (.drift l.state.iteration (detectDrift l.intent observed)), .apply l.intent])
  | settles {stimulus : Stimulus} {cause : Cause} {verdict : Verdict}
      (judges : l.Judges now stimulus cause verdict) :
      Progress l now stimulus (l.conclude now cause verdict)

theorem ne_state_of_not_compliant {observed : OperationalState}
    (differs : isCompliant l.intent observed = false) : observed ≠ l.intent.state := by
  intro same
  rw [isCompliant_iff.mpr same] at differs
  cases differs

theorem Transition.progress (h : l.Transition now stimulus result) :
    l.Progress now stimulus result := by
  cases busy : l.point.cause? with
  | none => exact .proceeds busy (h.proceeds busy)
  | some cause =>
    -- In an iteration, a step is from outside, or the device or the clock goes on with it.
    have beside (outside : stimulus.isOutside = true) : l.Progress now stimulus result := by
      obtain ⟨same, point, idle, waits⟩ := h.outside outside busy
      exact .beside busy outside same point idle waits
    cases h with
    | drift reading differs => exact .drifts reading (ne_state_of_not_compliant differs)
    | conclude judges => exact .settles judges
    | ring waiting due => rw [waiting] at busy; cases busy
    | desert waiting empty alone => rw [waiting] at busy; cases busy
    | takeShutdown waiting queued => rw [waiting] at busy; cases busy
    | takeRequest waiting queued => rw [waiting] at busy; cases busy
    | _ => exact beside rfl

end Loop

/-! ## Stages of an iteration -/

/-- How far a loop is with an iteration. -/
inductive Stage where
  /-- No iteration is in progress. -/
  | between
  | reading
  | applying
  deriving DecidableEq, Repr

def Point.stage : Point → Stage
  | .reading _ => .reading
  | .applying _ _ => .applying
  | _ => .between

/-- The stage at which an iteration comes to this verdict. -/
def Verdict.stage : Verdict → Stage
  | .unread _ | .compliant _ => .reading
  | .applied _ | .failed _ => .applying

/-- The iterations begun and not settled at this stage. -/
def Stage.pending : Stage → Nat
  | .between => 0
  | .reading | .applying => 1

theorem Point.stage_eq_between {point : Point} : point.stage = .between ↔ point.cause? = none := by
  cases point <;> simp [Point.stage, Point.cause?]

namespace Loop

variable {l : Loop} {now : Tick} {stimulus : Stimulus} {cause : Cause} {verdict : Verdict}

theorem Judges.stage (h : l.Judges now stimulus cause verdict) : l.point.stage = verdict.stage := by
  cases h with
  | unread reading => rw [reading]; rfl
  | compliant reading same => rw [reading]; rfl
  | applied applying inTime => rw [applying]; rfl
  | failed applying inTime => rw [applying]; rfl
  | timedOut applying late => rw [applying]; rfl

/-- All that the end of an iteration is told: the verdict, and the answer to the one who asked. -/
def told (l : Loop) (cause : Cause) (verdict : Verdict) : List Effect :=
  .report (verdict.event l.state.iteration (l.judged verdict).state.consecutiveFailures) ::
    cause.answer verdict.outcome

theorem conclude_eq (l : Loop) (now : Tick) (cause : Cause) (verdict : Verdict) :
    l.conclude now cause verdict =
      (((l.judged verdict).goOn now cause).1,
        l.told cause verdict ++ ((l.judged verdict).goOn now cause).2) := rfl

@[simp] theorem begunIn_told : begunIn (l.told cause verdict) = [] :=
  cause.begunIn_settled _ verdict _ _

@[simp] theorem verdictsIn_told :
    verdictsIn (l.told cause verdict) = [(l.state.iteration, verdict.outcome)] :=
  cause.verdictsIn_settled _ verdict _ _

/-- Telling it calls no device. -/
theorem isCall_of_mem_told {effect : Effect} (member : effect ∈ l.told cause verdict) :
    effect.isCall = false := by
  rcases List.mem_cons.mp member with rfl | answers
  · rfl
  · have outcome := cause.outcome?_of_mem_answer _ answers
    cases effect <;> first | rfl | cases outcome

/-- The only event is the one of the verdict. -/
theorem event_of_mem_told {event : Event} (member : .report event ∈ l.told cause verdict) :
    event = verdict.event l.state.iteration (l.judged verdict).state.consecutiveFailures := by
  rcases List.mem_cons.mp member with same | answers
  · exact Effect.report.inj same
  · cases cause with
    | regular => cases answers
    | _ => cases List.mem_singleton.mp answers

/-- It tells one outcome. -/
theorem outcome?_of_mem_told {effect : Effect} {outcome : Outcome}
    (member : effect ∈ l.told cause verdict) (told : effect.outcome? = some outcome) :
    outcome = verdict.outcome := by
  rcases List.mem_cons.mp member with rfl | answers
  · rw [Effect.outcome?, verdict.verdict?_event] at told
    exact (Option.some.inj told).symm
  · rw [cause.outcome?_of_mem_answer _ answers] at told
    exact (Option.some.inj told).symm

end Loop

/-! ## Outcomes -/

/-- The outcomes of the iterations settled, in their order. -/
abbrev outcomesIn (effects : List Effect) : List Outcome :=
  (verdictsIn effects).map Prod.snd

theorem outcomesIn_append (effects effects' : List Effect) :
    outcomesIn (effects ++ effects') = outcomesIn effects ++ outcomesIn effects' := by
  rw [outcomesIn, verdictsIn_append, List.map_append]

theorem Idle.outcomesIn_eq {effects : List Effect} (idle : Idle effects) :
    outcomesIn effects = [] := by
  rw [outcomesIn, idle.verdictsIn_eq, List.map_nil]

theorem outcomesIn_append_idle (effects : List Effect) {more : List Effect} (idle : Idle more) :
    outcomesIn (effects ++ more) = outcomesIn effects := by
  rw [outcomesIn_append, idle.outcomesIn_eq, List.append_nil]

theorem outcomesIn_append_told (effects : List Effect) (l : Loop) (cause : Cause)
    (verdict : Verdict) :
    outcomesIn (effects ++ l.told cause verdict) = outcomesIn effects ++ [verdict.outcome] := by
  rw [outcomesIn_append, outcomesIn, outcomesIn, Loop.verdictsIn_told]
  rfl

theorem outcomesIn_append_begin (effects : List Effect) (l : Loop) (cause : Cause) :
    outcomesIn (effects ++ (l.startIteration cause).2) = outcomesIn effects := by
  rw [outcomesIn_append]
  exact List.append_nil _

/-! ## Positions -/

/-- Every item fits those ahead of it. -/
def Throughout {α : Type} (fits : List α → α → Prop) (items : List α) : Prop :=
  ∀ ahead item behind, items = ahead ++ item :: behind → fits ahead item

section

variable {α : Type} {fits : List α → α → Prop} {items more : List α}

theorem throughout_nil : Throughout fits [] := by
  intro ahead item behind cut
  exact absurd cut.symm (List.append_ne_nil_of_right_ne_nil _ (List.cons_ne_nil _ _))

theorem Throughout.append (h : Throughout fits items)
    (h' : ∀ ahead item behind, more = ahead ++ item :: behind → fits (items ++ ahead) item) :
    Throughout fits (items ++ more) := by
  intro ahead item behind cut
  -- The item stands in the first part or in the second.
  rcases List.append_eq_append_iff.mp cut with ⟨middle, rfl, cut'⟩ | ⟨middle, rfl, cut'⟩
  · exact h' middle item behind cut'
  · cases middle with
    | nil =>
      have here := h' [] item behind cut'.symm
      rwa [List.append_nil, List.append_nil] at here
    | cons first rest =>
      cases cut'
      exact h ahead item rest rfl

end

/-! ## Numbered accounts -/

/-- What is told of items one by one, numbered on behind a last number. -/
def numbered {α β : Type} (tell : Nat → α → List β) : Nat → List α → List β
  | _, [] => []
  | last, item :: rest => tell (last + 1) item ++ numbered tell (last + 1) rest

section

variable {α β : Type} (tell : Nat → α → List β) (last : Nat)

theorem numbered_append (items items' : List α) :
    numbered tell last (items ++ items') =
      numbered tell last items ++ numbered tell (last + items.length) items' := by
  induction items generalizing last with
  | nil => rfl
  | cons item rest ih =>
    rw [List.cons_append, numbered, ih, numbered, List.append_assoc, List.length_cons,
      Nat.add_right_comm, Nat.add_assoc last]

theorem numbered_concat (items : List α) (item : α) :
    numbered tell last (items ++ [item]) =
      numbered tell last items ++ tell (last + items.length + 1) item := by
  rw [numbered_append, numbered, numbered, List.append_nil]

end

/-! ## What every execution keeps -/

/--
What holds of the effects so far, a loop and its stage is kept by all that a step can be to the
iterations.
-/
structure Kept (holds : List Effect → Loop → Stage → Prop) : Prop where
  idle : ∀ {effects more l l' stage}, holds effects l stage → Loop.SameBooks l l' → Idle more →
    l.Waits more → holds (effects ++ more) l' stage
  begins : ∀ {effects l} cause, holds effects l .between →
    holds (effects ++ (l.startIteration cause).2) (l.startIteration cause).1 .reading
  drifts : ∀ {effects l} cause limit observed, holds effects l .reading →
    observed ≠ l.intent.state →
    holds (effects ++
        [.report (.drift l.state.iteration (detectDrift l.intent observed)), .apply l.intent])
      { l with state := l.state.startApplying, point := .applying cause limit } .applying
  settles : ∀ {effects l} cause verdict, holds effects l verdict.stage →
    holds (effects ++ l.told cause verdict) (l.judged verdict) .between

namespace Kept

variable {holds : List Effect → Loop → Stage → Prop} {effects : List Effect} {l l' : Loop}

theorem of_proceeds (kept : Kept holds) (h : holds effects l .between)
    {result : Loop × List Effect} (proceeds : l.Proceeds result) :
    holds (effects ++ result.2) result.1 result.1.point.stage := by
  cases proceeds with
  | rests same free idle waits =>
    rw [Point.stage_eq_between.mpr free]
    exact kept.idle h same idle waits
  | begins same idle waits =>
    rw [← List.append_assoc]
    exact kept.begins _ (kept.idle h same idle waits)

theorem of_progress (kept : Kept holds) {now : Tick} {stimulus : Stimulus}
    {result : Loop × List Effect} (progress : l.Progress now stimulus result)
    (h : holds effects l l.point.stage) :
    holds (effects ++ result.2) result.1 result.1.point.stage := by
  cases progress with
  | proceeds free proceeds =>
    rw [Point.stage_eq_between.mpr free] at h
    exact kept.of_proceeds h proceeds
  | beside busy outside same point idle waits =>
    rw [point]
    exact kept.idle h same idle waits
  | drifts reading differs =>
    rw [reading] at h
    exact kept.drifts _ _ _ h differs
  | @settles _ cause verdict judges =>
    rw [judges.stage] at h
    rw [Loop.conclude_eq, ← List.append_assoc]
    exact kept.of_proceeds (kept.settles cause verdict h) (Loop.proceeds_goOn cause)

/-- What each way to go on keeps is kept by every execution. -/
theorem of_execution (kept : Kept holds) (start : holds effects l l.point.stage)
    {moves : List Move} (h : Execution l moves l') :
    holds (effects ++ effectsOf moves) l' l'.point.stage := by
  induction h with
  | start =>
    rw [effectsOf_nil, List.append_nil]
    exact start
  | step earlier taken ih =>
    rw [effectsOf_append, effectsOf_singleton, ← List.append_assoc]
    exact kept.of_progress (Loop.transition_of_step taken).progress ih

/-- It holds of every execution from a new loop if it holds of that loop. -/
theorem of_new (kept : Kept holds) {name : String} {intent : Intent} {options : LoopOptions}
    (start : holds [] (Loop.create name intent options) .between) {moves : List Move}
    (h : Execution (Loop.create name intent options) moves l) :
    holds (effectsOf moves) l l.point.stage :=
  kept.of_execution start h

end Kept

end ClosedLoop
