import ClosedLoop.Proofs.Calls
import ClosedLoop.Proofs.Rearming

/-!
# Phases

The phase of a loop is set in many places, and none of them looks at the one before. It is true all
the same: wherever a loop is suspended or has returned, the phase says which call of the device is
outstanding, or that the loop waits, or that it has ended.

* `Point.phase` — the phase that belongs to a point
* `Loop.Transition.inPhase_or` — a step of the loop itself leads to the phase of its point, from any
  phase
* `Move.Balanced` — a step begins and ends calls as the stages before and behind it have it
* `Loop.Transition.tellsEnd_iff` — a step that tells of the end is the one that leads to it
* `phase_agrees_with_calls_and_waits` — the phases in every state, and behind every iteration
-/

namespace ClosedLoop

/-! ## The phase of a point -/

/-- The phase in which a loop is at a point. One that was given up had begun to wait. -/
def Point.phase : Point → Phase
  | .idle => .idle
  | .reading _ => .checking
  | .applying _ _ => .applying
  | .waiting _ | .aborted => .waiting
  | .stopped => .stopped

namespace Point

variable {point : Point}

theorem phase_eq_applying : point.phase = .applying ↔ point.stage = .applying := by
  cases point <;> simp [phase, stage]

theorem phase_eq_waiting :
    point.phase = .waiting ↔ (∃ deadline, point = .waiting deadline) ∨ point = .aborted := by
  cases point <;> simp [phase]

theorem phase_eq_stopped : point.phase = .stopped ↔ point = .stopped := by
  cases point <;> simp [phase]

/-- A loop that is somewhere has started. -/
theorem phase_ne_notStarted : point.phase ≠ .notStarted := by
  cases point <;> exact nofun

end Point

namespace Loop

variable {l : Loop} {now : Tick} {stimulus : Stimulus} {result : Loop × List Effect}
  {cause : Cause} {verdict : Verdict}

/-- The loop is in the phase that belongs to its point. -/
def InPhase (l : Loop) : Prop :=
  l.state.phase = l.point.phase

/-- What a loop goes on with does not depend on the phase that it comes from. -/
theorem Continues.inPhase {behind : Option Cause} (h : l.Continues now behind result) :
    result.1.InPhase := by
  cases h <;> rfl

theorem judged_phase : (l.judged verdict).state.phase = .idle := by
  cases verdict <;> rfl

theorem inPhase_conclude : (l.conclude now cause verdict).1.InPhase := by
  by_cases direct : cause = .direct
  · subst direct
    exact judged_phase
  · exact (continues_goOn direct).inPhase

/-- A step leads to the phase of its point, or leaves both to what others do. -/
theorem Transition.inPhase_or (h : l.Transition now stimulus result) :
    result.1.InPhase ∨ (result.1.state = l.state ∧ result.1.point = l.point) := by
  cases h with
  | iterate idle => exact .inl rfl
  | run idle => exact .inl (l.continues_turn now none).inPhase
  | drift reading differs => exact .inl rfl
  | conclude judges => exact .inl inPhase_conclude
  | ring waiting due => exact .inl (l.continues_turn now none).inPhase
  | desert waiting empty alone => exact .inl rfl
  | takeShutdown waiting queued => exact .inl rfl
  | takeRequest waiting queued => exact .inl rfl
  | refuse ended => exact .inr ⟨rfl, rfl⟩
  | accept goes => exact .inr ⟨rfl, rfl⟩
  | handleMade => exact .inr ⟨rfl, rfl⟩
  | handleDropped => exact .inr ⟨rfl, rfl⟩

end Loop

namespace Execution

variable {name : String} {intent : Intent} {options : LoopOptions} {moves : List Move} {l : Loop}
  (h : Execution (Loop.create name intent options) moves l)
include h

/-- A loop is in the phase of its point, or nothing has been called on it yet. -/
theorem inPhase_or : l.InPhase ∨ (l.point = .idle ∧ l.state = {}) := by
  induction h with
  | start => exact .inr ⟨rfl, rfl⟩
  | step earlier taken ih =>
    rcases (Loop.transition_of_step taken).inPhase_or with phased | ⟨state, point⟩
    · exact .inl phased
    · rw [Loop.InPhase, state, point]
      exact ih

/-- But for the phases of a loop that nobody has called or that has returned from a call, the phase
is the one of the point. -/
theorem phase_eq_iff (phase : Phase) (called : phase ≠ .notStarted) (inside : phase ≠ .idle) :
    l.state.phase = phase ↔ l.point.phase = phase := by
  rcases h.inPhase_or with phased | ⟨point, state⟩
  · rw [phased]
  · rw [point, state]
    exact iff_of_false called.symm inside.symm

theorem eq_new_of_notStarted (unstarted : l.state.phase = .notStarted) : l.state = {} := by
  rcases h.inPhase_or with phased | ⟨-, state⟩
  · exact absurd (phased.symm.trans unstarted) Point.phase_ne_notStarted
  · exact state

end Execution

/-! ## Calls -/

/-- The reads that have been begun and have not ended at this stage. -/
def Stage.reads : Stage → Nat
  | .reading => 1
  | .between | .applying => 0

namespace Point

variable (point : Point)

theorem reads_stage : point.stage.reads = if point.phase = .checking then 1 else 0 := by
  cases point <;> rfl

theorem outstanding_stage :
    point.stage.outstanding = if point.phase = .applying then 1 else 0 := by
  cases point <;> rfl

end Point

namespace Stimulus

/-- A read ends: the device answers. -/
def endsRead : Stimulus → Bool
  | .readAnswered _ => true
  | _ => false

/-- An apply ends: the device answers, or the loop gives it up when its time is up. -/
def endsApply (point : Point) : Stimulus → Bool
  | .applyAnswered _ => true
  | .timeUp => point.stage == .applying
  | _ => false

end Stimulus

/-- The calls that are outstanding or begun are the ones that end or are outstanding behind. -/
structure Move.Balanced (move : Move) : Prop where
  reads : move.before.point.stage.reads + move.effects.countP Effect.isRead =
    (if move.stimulus.endsRead then 1 else 0) + move.after.point.stage.reads
  applies : move.before.point.stage.outstanding + move.effects.countP Effect.isApply =
    (if move.stimulus.endsApply move.before.point then 1 else 0) +
      move.after.point.stage.outstanding

namespace Loop

variable {l : Loop} {now : Tick} {stimulus : Stimulus} {result : Loop × List Effect}
  {cause : Cause} {verdict : Verdict}

/-- Outside an iteration a loop begins a read, and is reading then, or calls nothing. -/
theorem Proceeds.calls (h : l.Proceeds result) :
    result.2.countP Effect.isRead = result.1.point.stage.reads ∧
      result.2.countP Effect.isApply = result.1.point.stage.outstanding := by
  cases h with
  | rests same free idle =>
    rw [Point.stage_eq_between.mpr free, idle.uncalled.reads, idle.uncalled.applies]
    exact ⟨rfl, rfl⟩
  | begins same idle =>
    rw [List.countP_append, List.countP_append, idle.uncalled.reads, idle.uncalled.applies]
    exact ⟨rfl, rfl⟩

/-- Outside an iteration no call ends. -/
theorem Transition.ends_of_free (h : l.Transition now stimulus result)
    (free : l.point.cause? = none) :
    stimulus.endsRead = false ∧ stimulus.endsApply l.point = false := by
  cases h with
  | drift reading differs =>
    rw [reading] at free
    cases free
  | conclude judges => exact nomatch judges.cause?_point.symm.trans free
  | ring waiting due =>
    rw [waiting]
    exact ⟨rfl, rfl⟩
  | _ => exact ⟨rfl, rfl⟩

/-- What comes from outside ends no call. -/
theorem ends_of_isOutside (point : Point) (outside : stimulus.isOutside = true) :
    stimulus.endsRead = false ∧ stimulus.endsApply point = false := by
  cases stimulus <;> first | exact ⟨rfl, rfl⟩ | cases outside

/-- A verdict ends the call that is outstanding. -/
theorem Judges.ends (h : l.Judges now stimulus cause verdict) :
    (if stimulus.endsRead then 1 else 0) = l.point.stage.reads ∧
      (if stimulus.endsApply l.point then 1 else 0) = l.point.stage.outstanding := by
  cases h with
  | unread reading => rw [reading]; exact ⟨rfl, rfl⟩
  | compliant reading same => rw [reading]; exact ⟨rfl, rfl⟩
  | applied applying inTime => rw [applying]; exact ⟨rfl, rfl⟩
  | failed applying inTime => rw [applying]; exact ⟨rfl, rfl⟩
  | timedOut applying late => rw [applying]; exact ⟨rfl, rfl⟩

theorem balanced_conclude (judges : l.Judges now stimulus cause verdict) :
    Move.Balanced ⟨l, now, stimulus, (l.conclude now cause verdict).2,
      (l.conclude now cause verdict).1⟩ := by
  have told := uncalled_told l cause verdict
  have goesOn : (l.judged verdict).Proceeds ((l.judged verdict).goOn now cause) :=
    proceeds_goOn cause
  have calls := goesOn.calls
  rw [conclude_eq]
  refine ⟨?_, ?_⟩
  · rw [List.countP_append, told.reads, Nat.zero_add, calls.1, judges.ends.1]
  · rw [List.countP_append, told.applies, Nat.zero_add, calls.2, judges.ends.2]

/-- A step begins and ends calls as the stages before and behind it have it. -/
theorem Transition.balanced (h : l.Transition now stimulus result) :
    Move.Balanced ⟨l, now, stimulus, result.2, result.1⟩ := by
  cases h.progress with
  | proceeds free proceeds =>
    obtain ⟨read, apply⟩ := h.ends_of_free free
    have between := Point.stage_eq_between.mpr free
    refine ⟨?_, ?_⟩
    · rw [between, read, proceeds.calls.1]
      rfl
    · rw [apply, between, proceeds.calls.2]
      rfl
  | @beside _ _ _ cause busy outside same point idle =>
    obtain ⟨read, apply⟩ := ends_of_isOutside l.point outside
    refine ⟨?_, ?_⟩
    · rw [point, read, idle.uncalled.reads]
      exact Nat.add_comm _ _
    · rw [point, apply, idle.uncalled.applies]
      exact Nat.add_comm _ _
  | drifts reading differs =>
    refine ⟨?_, ?_⟩ <;> rw [reading] <;> rfl
  | settles judges => exact balanced_conclude judges

end Loop

namespace Execution

variable {l l' : Loop} {moves : List Move}

/-- Calls that have been begun have ended or are outstanding. -/
theorem calls_eq (h : Execution l moves l') (free : l.point.cause? = none) :
    (effectsOf moves).countP Effect.isRead =
        moves.countP (fun move => move.stimulus.endsRead) + l'.point.stage.reads ∧
      (effectsOf moves).countP Effect.isApply =
        moves.countP (fun move => move.stimulus.endsApply move.before.point) +
          l'.point.stage.outstanding := by
  induction h with
  | start =>
    rw [Point.stage_eq_between.mpr free]
    exact ⟨rfl, rfl⟩
  | @step moves l₁ l₂ now stimulus effects earlier taken ih =>
    have balanced := (Loop.transition_of_step taken).balanced
    rw [effectsOf_append, effectsOf_singleton]
    simp only [List.countP_append, List.countP_singleton]
    rw [ih.1, ih.2, Nat.add_assoc, Nat.add_assoc, Nat.add_assoc, Nat.add_assoc]
    exact ⟨congrArg _ balanced.reads, congrArg _ balanced.applies⟩

end Execution

/-! ## The end -/

/-- The end of a run is told of. -/
def TellsEnd (effects : List Effect) : Prop :=
  ∃ summary, .report (.stopped summary) ∈ effects

theorem tellsEnd_append {effects more : List Effect} :
    TellsEnd (effects ++ more) ↔ TellsEnd effects ∨ TellsEnd more := by
  simp only [TellsEnd, List.mem_append, exists_or]

theorem not_tellsEnd_unanswered (messages : List Message) :
    ¬TellsEnd (Loop.unanswered messages) :=
  fun ⟨_, member⟩ => Loop.report_not_mem_unanswered messages _ member

theorem tellsEnd_cons {effect : Effect} {effects : List Effect}
    (other : ∀ summary, effect ≠ .report (.stopped summary)) :
    TellsEnd (effect :: effects) ↔ TellsEnd effects := by
  constructor
  · rintro ⟨summary, member⟩
    rcases List.mem_cons.mp member with here | behind
    · exact absurd here.symm (other summary)
    · exact ⟨summary, behind⟩
  · rintro ⟨summary, member⟩
    exact ⟨summary, List.mem_cons_of_mem _ member⟩

namespace Loop

variable {l : Loop} {now : Tick} {stimulus : Stimulus} {result : Loop × List Effect}
  {cause : Cause} {verdict : Verdict}

theorem tellsEnd_halt : TellsEnd (l.halt []).2 :=
  ⟨l.summary, List.mem_cons_self ..⟩

theorem tellsEnd_startIteration (l : Loop) (cause : Cause) :
    TellsEnd (l.startIteration cause).2 ↔ (l.startIteration cause).1.point = .stopped :=
  iff_of_false (by simp [TellsEnd, startIteration]) (by simp [startIteration])

theorem Continues.tellsEnd_iff {behind : Option Cause} (h : l.Continues now behind result) :
    TellsEnd result.2 ↔ result.1.point = .stopped := by
  cases h with
  | halt why => exact iff_of_true tellsEnd_halt rfl
  | abort below beyond =>
    exact (tellsEnd_cons (by simp)).trans (iff_of_false (not_tellsEnd_unanswered _) (by simp))
  | wait below => exact iff_of_false (by simp [TellsEnd, startWait]) (by simp [startWait])
  | resume below held => exact iff_of_false (by simp [TellsEnd]) (by simp)
  | _ => exact tellsEnd_startIteration _ _

theorem not_tellsEnd_told : ¬TellsEnd (l.told cause verdict) := by
  rintro ⟨summary, member⟩
  have same := event_of_mem_told member
  cases verdict <;> cases same

/-- A step that tells of the end is the one that leads to it. -/
theorem Transition.tellsEnd_iff (h : l.Transition now stimulus result)
    (goes : l.point ≠ .stopped) : TellsEnd result.2 ↔ result.1.point = .stopped := by
  have turned := (l.continues_turn now none).tellsEnd_iff
  cases h with
  | iterate idle => exact tellsEnd_startIteration l .direct
  | run idle => exact (tellsEnd_cons (by simp)).trans turned
  | drift reading differs => exact iff_of_false (by simp [TellsEnd]) (by simp)
  | @conclude _ cause verdict judges =>
    rw [conclude_eq, tellsEnd_append, or_iff_right not_tellsEnd_told]
    by_cases direct : cause = .direct
    · subst direct
      exact iff_of_false (by simp [TellsEnd, goOn]) (by simp [goOn])
    · exact (continues_goOn direct).tellsEnd_iff
  | ring waiting due => exact turned
  | desert waiting empty alone => exact iff_of_true tellsEnd_halt rfl
  | takeShutdown waiting queued => exact iff_of_true tellsEnd_halt rfl
  | takeRequest waiting queued => exact tellsEnd_startIteration _ _
  | refuse ended =>
    exact (tellsEnd_cons (by simp)).trans (iff_of_false (not_tellsEnd_unanswered _) goes)
  | accept goes' => exact iff_of_false (by simp [TellsEnd]) goes
  | handleMade => exact iff_of_false (by simp [TellsEnd]) goes
  | handleDropped => exact iff_of_false (by simp [TellsEnd]) goes

end Loop

/-- A loop has stopped exactly if it has told of its end. -/
theorem Execution.tellsEnd_iff {l l' : Loop} {moves : List Move} (h : Execution l moves l')
    (goes : l.point ≠ .stopped) : TellsEnd (effectsOf moves) ↔ l'.point = .stopped := by
  induction h with
  | start => exact iff_of_false (by simp [TellsEnd]) goes
  | @step moves l₁ l₂ now stimulus effects earlier taken ih =>
    have transition := Loop.transition_of_step taken
    rw [effectsOf_append, effectsOf_singleton, tellsEnd_append, ih]
    by_cases ended : l₁.point = .stopped
    · have still := (transition.of_ended (Loop.hasEnded_iff.mpr (.inl ended))).1
      exact iff_of_true (.inl ended) (still.trans ended)
    · rw [or_iff_right ended]
      exact transition.tellsEnd_iff ended

/-! ## Phases in an execution -/

/-- Where an apply is outstanding, the read before it has returned another state. -/
theorem Execution.exists_drift {name : String} {intent : Intent} {options : LoopOptions}
    {moves : List Move} {l : Loop} (h : Execution (Loop.create name intent options) moves l)
    (applying : l.point.stage = .applying) :
    ∃ ahead observed, contactsOf moves = ahead ++ [.answered (.ok observed), .apply intent] ∧
      observed ≠ intent.state := by
  obtain ⟨rounds, begun, split, underway, -⟩ := h.inRounds
  rw [applying, h.sameSetup.intent] at underway
  rw [h.sameSetup.intent] at split
  cases underway with
  | @applying observed differs =>
    refine ⟨Round.trace intent 0 rounds ++ [.begins l.state.iteration, .read], observed, ?_,
      differs⟩
    rw [split, List.append_assoc]
    rfl

/-- Before the first iteration none has begun. -/
theorem Execution.begunIn_eq_nil {l l' : Loop} {moves : List Move} (h : Execution l moves l')
    (same : l'.state.iteration = l.state.iteration) : begunIn (effectsOf moves) = [] := by
  obtain ⟨count, number, begun⟩ := h.begun_eq
  have none : count = 0 := by omega
  rw [begun, none]
  rfl

/-- The end of an iteration leads through the phase in which no iteration is in progress. -/
theorem Move.Settles.idle {move : Move} {cause : Cause}
    (taken : move.before.step move.now move.stimulus = some (move.after, move.effects))
    (settles : move.Settles cause) :
    ∃ verdict, verdictsIn move.effects = [(move.before.state.iteration, verdict.outcome)] ∧
      (move.before.judged verdict).state.phase = .idle ∧
      move.after = ((move.before.judged verdict).goOn move.now cause).1 := by
  obtain ⟨verdict, effects, after⟩ := settles.exists_verdict taken
  exact ⟨verdict, effects ▸ Loop.verdictsIn_conclude, Loop.judged_phase, after⟩

/--
Wherever a loop is suspended or has returned, its phase is the one of what it does. As many reads
have been begun as have ended, and one more exactly in the phase of checking; likewise for applies,
and the read before one that is outstanding has returned a state that is not the intended one. The
loop is in the phase of waiting exactly in the wait, also behind an iteration requested in it; one
that is given up there stays in it. Every iteration, of any loop in any phase, leads to the idle
phase, from which the loop goes on. Nothing has been begun while a loop has not started, and it is
in the last phase exactly if it has told of its end.
-/
theorem phase_agrees_with_calls_and_waits {name : String} {intent : Intent} {options : LoopOptions}
    {moves : List Move} {l : Loop} (h : Execution (Loop.create name intent options) moves l) :
    (effectsOf moves).countP Effect.isRead =
      moves.countP (fun move => move.stimulus.endsRead) +
        (if l.state.phase = .checking then 1 else 0) ∧
    (effectsOf moves).countP Effect.isApply =
      moves.countP (fun move => move.stimulus.endsApply move.before.point) +
        (if l.state.phase = .applying then 1 else 0) ∧
    (l.state.phase = .applying → ∃ ahead observed,
      contactsOf moves = ahead ++ [.answered (.ok observed), .apply intent] ∧
        observed ≠ intent.state) ∧
    (l.state.phase = .waiting ↔ (∃ deadline, l.point = .waiting deadline) ∨ l.point = .aborted) ∧
    (∀ move ∈ moves, ∀ request, move.Settles (.awaited request) →
      move.after.limitReached = false → move.after.state.phase = .waiting) ∧
    (∀ l₀ moves₀ l₁, Execution l₀ moves₀ l₁ → ∀ move ∈ moves₀, ∀ cause, move.Settles cause →
      (∃ verdict, verdictsIn move.effects = [(move.before.state.iteration, verdict.outcome)] ∧
        (move.before.judged verdict).state.phase = .idle ∧
        move.after = ((move.before.judged verdict).goOn move.now cause).1) ∧
      (cause = .direct → move.after.point = .idle ∧ move.after.state.phase = .idle)) ∧
    (l.state.phase = .notStarted →
      l.state.iteration = 0 ∧ begunIn (effectsOf moves) = []) ∧
    (l.state.phase = .stopped ↔ ∃ summary, .report (.stopped summary) ∈ effectsOf moves) := by
  have checking := h.phase_eq_iff .checking nofun nofun
  have applying := h.phase_eq_iff .applying nofun nofun
  have waiting := h.phase_eq_iff .waiting nofun nofun
  have stopped := h.phase_eq_iff .stopped nofun nofun
  have calls := h.calls_eq rfl
  rw [Point.reads_stage, Point.outstanding_stage] at calls
  refine ⟨?_, ?_, ?_, waiting.trans Point.phase_eq_waiting, ?_, ?_, ?_, ?_⟩
  · simpa only [checking] using calls.1
  · simpa only [applying] using calls.2
  · intro outstanding
    exact h.exists_drift (Point.phase_eq_applying.mp (applying.mp outstanding))
  · intro move member request settles below
    obtain ⟨ahead, behind, rfl⟩ := List.append_of_mem member
    obtain ⟨earlier, taken, -⟩ := h.move_taken
    rw [(earlier.step taken).phase_eq_iff .waiting nofun nofun, Point.phase_eq_waiting]
    rcases settles.rearms taken below with ⟨-, again⟩ | ⟨-, aborted⟩
    · exact .inl ⟨_, again⟩
    · exact .inr aborted
  · intro l₀ moves₀ l₁ h₀ move member cause settles
    obtain ⟨ahead, behind, rfl⟩ := List.append_of_mem member
    obtain ⟨-, taken, -⟩ := h₀.move_taken
    obtain ⟨verdict, settled, idle, after⟩ := settles.idle taken
    refine ⟨⟨verdict, settled, idle, after⟩, ?_⟩
    rintro rfl
    rw [after]
    exact ⟨rfl, idle⟩
  · intro unstarted
    have new := h.eq_new_of_notStarted unstarted
    exact ⟨congrArg LoopState.iteration new, h.begunIn_eq_nil (congrArg LoopState.iteration new)⟩
  · exact (stopped.trans Point.phase_eq_stopped).trans (h.tellsEnd_iff nofun).symm

/--
Behind a direct call whose read fails, the run applies its intent in an iteration requested in the
wait.
-/
theorem phase_of_requested_apply :
    let run := (Loop.create "router1" .sample .standard).replay
      [(0, .handleMade), (0, .iterate), (0, .readAnswered (.error (.stateRead "no answer"))),
        (0, .run), (0, .readAnswered (.ok Intent.sample.state)), (10, .send (.reconcile 1)),
        (10, .receive), (10, .readAnswered (.ok .drifted))]
    run.2.state.phase = .applying ∧
      (effectsOf run.1).countP Effect.isApply =
        run.1.countP (fun move => move.stimulus.endsApply move.before.point) + 1 ∧
      (effectsOf run.1).countP Effect.isRead = run.1.countP (fun move => move.stimulus.endsRead) ∧
      (∃ ahead observed,
        contactsOf run.1 = ahead ++ [.answered (.ok observed), .apply .sample] ∧
          observed ≠ Intent.sample.state) ∧
      ∃ move ∈ run.1, move.Settles .direct ∧ move.before.state.phase = .checking ∧
        move.after.state.phase = .idle := by
  intro run
  have h : Execution (Loop.create "router1" .sample .standard) run.1 run.2 := .of_replay _ _
  have applying : run.2.state.phase = .applying := by decide
  have direct : ∃ move ∈ run.1, move.Settles .direct ∧ move.before.state.phase = .checking := by
    decide
  obtain ⟨reads, applies, drift, -, -, idle, -⟩ := phase_agrees_with_calls_and_waits h
  rw [applying] at reads applies
  obtain ⟨move, member, settles, checking⟩ := direct
  exact ⟨applying, applies, reads, drift applying, move, member, settles, checking,
    ((idle _ _ _ h move member .direct settles).2 rfl).2⟩

end ClosedLoop
