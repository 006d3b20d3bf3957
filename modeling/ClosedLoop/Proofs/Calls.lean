import ClosedLoop.Proofs.Progress
import ClosedLoop.Sample

/-!
# Calls of the device

A loop reads the state of its device once in each iteration. It applies its intent behind a read
that has returned another state than the intended one, once and whole, and at no other time. This
holds of any device, whatever it answers and however long it takes.

* `Contact` — what passes between a loop and its device
* `Round.contacts` — what passes in one iteration
* `apply_only_after_observed_drift` — every execution is rounds, and the beginning of one
-/

namespace ClosedLoop

attribute [local simp] List.filterMap_cons

/-! ## Contacts -/

/-- What passes between a loop and its device, and where an iteration begins and ends. -/
inductive Contact where
  | begins (number : Nat)
  /-- The device is asked for its state. -/
  | read
  /-- The read returns. -/
  | answered (result : Except EnforcementError OperationalState)
  /-- The device is given an intent. -/
  | apply (intent : Intent)
  | ends (number : Nat) (outcome : Outcome)

/-- The contact that an effect is. -/
@[simp] def Effect.contact? : Effect → Option Contact
  | .read => some .read
  | .apply intent => some (.apply intent)
  | .report (.iteration number) => some (.begins number)
  | .report event => event.verdict?.map fun (number, outcome) => .ends number outcome
  | _ => none

/-- The contact that a stimulus is. -/
@[simp] def Stimulus.contact? : Stimulus → Option Contact
  | .readAnswered result => some (.answered result)
  | _ => none

/-- The contacts among effects, in their order. -/
abbrev contactsIn (effects : List Effect) : List Contact :=
  effects.filterMap Effect.contact?

/-- The contacts of a step: what makes it, then what it does. -/
def Move.contacts (move : Move) : List Contact :=
  move.stimulus.contact?.toList ++ contactsIn move.effects

/-- The contacts of moves, in their order. -/
def contactsOf (moves : List Move) : List Contact :=
  moves.flatMap Move.contacts

theorem contactsOf_concat (moves : List Move) (move : Move) :
    contactsOf (moves ++ [move]) = contactsOf moves ++ move.contacts := by
  simp [contactsOf]

theorem contactsIn_append (effects effects' : List Effect) :
    contactsIn (effects ++ effects') = contactsIn effects ++ contactsIn effects' :=
  List.filterMap_append

theorem Effect.contact?_of_isIdle {effect : Effect} (idle : effect.isIdle = true) :
    effect.contact? = none := by
  cases effect with
  | report event => cases event <;> first | rfl | cases idle
  | _ => first | rfl | cases idle

theorem Idle.contactsIn_eq {effects : List Effect} (idle : Idle effects) :
    contactsIn effects = [] :=
  List.filterMap_eq_nil_iff.mpr fun effect member => Effect.contact?_of_isIdle (idle effect member)

theorem contactsIn_told (l : Loop) (cause : Cause) (verdict : Verdict) :
    contactsIn (l.told cause verdict) = [.ends l.state.iteration verdict.outcome] := by
  cases cause <;> cases verdict <;> rfl

/-- What comes from outside is no contact with the device. -/
theorem Stimulus.contact?_of_isOutside {stimulus : Stimulus} (outside : stimulus.isOutside = true) :
    stimulus.contact? = none := by
  cases stimulus <;> first | rfl | cases outside

/-- Outside an iteration no read returns. -/
theorem Loop.Transition.contact?_eq_none {l : Loop} {now : Tick} {stimulus : Stimulus}
    {result : Loop × List Effect} (h : l.Transition now stimulus result)
    (free : l.point.cause? = none) : stimulus.contact? = none := by
  cases h with
  | drift reading differs =>
    rw [reading] at free
    cases free
  | conclude judges => exact nomatch judges.cause?_point.symm.trans free
  | _ => rfl

/-! ## Rounds -/

/-- The read has returned a state, and not the intended one. -/
def FindsDrift (intent : Intent) : Except EnforcementError OperationalState → Prop
  | .ok observed => observed ≠ intent.state
  | .error _ => False

instance (intent : Intent) : DecidablePred (FindsDrift intent)
  | .ok observed => inferInstanceAs (Decidable (observed ≠ intent.state))
  | .error _ => inferInstanceAs (Decidable False)

/-- An iteration as its device sees it: what the read returned, and what came of it. -/
structure Round where
  result : Except EnforcementError OperationalState
  outcome : Outcome

namespace Round

/-- What passes in an iteration of this number: a read, and an apply if it has found a drift. -/
def contacts (intent : Intent) (number : Nat) (round : Round) : List Contact :=
  [.begins number, .read, .answered round.result] ++
    (if FindsDrift intent round.result then [.apply intent] else []) ++
    [.ends number round.outcome]

theorem contacts_of_drift {intent : Intent} (round : Round) (number : Nat)
    (drift : FindsDrift intent round.result) :
    round.contacts intent number =
      [.begins number, .read, .answered round.result, .apply intent,
        .ends number round.outcome] := by
  rw [contacts, if_pos drift]
  rfl

theorem contacts_of_no_drift {intent : Intent} (round : Round) (number : Nat)
    (none : ¬FindsDrift intent round.result) :
    round.contacts intent number =
      [.begins number, .read, .answered round.result, .ends number round.outcome] := by
  rw [contacts, if_neg none]
  rfl

/-- What passes in iterations, numbered on behind a last number. -/
def trace (intent : Intent) : Nat → List Round → List Contact := numbered (contacts intent)

theorem trace_concat (intent : Intent) (last : Nat) (rounds : List Round) (round : Round) :
    trace intent last (rounds ++ [round]) =
      trace intent last rounds ++ round.contacts intent (last + rounds.length + 1) :=
  numbered_concat (contacts intent) last rounds round

end Round

/-- What has passed in the iteration in progress, at each stage of it. -/
inductive Underway (intent : Intent) (number : Nat) : Stage → List Contact → Prop where
  | between : Underway intent number .between []
  | reading : Underway intent number .reading [.begins number, .read]
  | applying {observed : OperationalState} (differs : observed ≠ intent.state) :
      Underway intent number .applying
        [.begins number, .read, .answered (.ok observed), .apply intent]

/-- The contacts so far are whole rounds, and what has passed in the iteration in progress. -/
def InRounds (contacts : List Contact) (l : Loop) (stage : Stage) : Prop :=
  ∃ rounds begun, contacts = Round.trace l.intent 0 rounds ++ begun ∧
    Underway l.intent l.state.iteration stage begun ∧
    rounds.length + stage.pending = l.state.iteration

namespace InRounds

variable {contacts : List Contact} {l l' : Loop} {now : Tick} {stage : Stage}

theorem congr (h : InRounds contacts l stage) (intent : l'.intent = l.intent)
    (iteration : l'.state.iteration = l.state.iteration) : InRounds contacts l' stage := by
  rw [InRounds, intent, iteration]
  exact h

theorem begins (h : InRounds contacts l .between) (cause : Cause) :
    InRounds (contacts ++ contactsIn (l.startIteration cause).2) (l.startIteration cause).1
      .reading := by
  obtain ⟨rounds, begun, split, ⟨⟩, number⟩ := h
  refine ⟨rounds, _, ?_, .reading, congrArg (· + 1) number⟩
  rw [split, List.append_nil]
  rfl

theorem proceeds {result : Loop × List Effect} (h : InRounds contacts l .between)
    (proceeds : l.Proceeds result) :
    InRounds (contacts ++ contactsIn result.2) result.1 result.1.point.stage := by
  cases proceeds with
  | rests same free idle =>
    rw [idle.contactsIn_eq, List.append_nil, Point.stage_eq_between.mpr free]
    exact h.congr same.intent same.iteration
  | begins same idle =>
    rw [contactsIn_append, idle.contactsIn_eq, List.nil_append]
    exact (h.congr same.intent same.iteration).begins _

theorem drifts {observed : OperationalState} (h : InRounds contacts l .reading)
    (differs : observed ≠ l.intent.state) :
    InRounds (contacts ++ [.answered (.ok observed), .apply l.intent]) l .applying := by
  obtain ⟨rounds, begun, split, ⟨⟩, number⟩ := h
  exact ⟨rounds, _, by rw [split, List.append_assoc]; rfl, .applying differs, number⟩

/-- What ends an iteration completes its round. -/
theorem complete {rounds : List Round} {begun more : List Contact} {verdict : Verdict}
    (round : Round) (split : contacts = Round.trace l.intent 0 rounds ++ begun)
    (whole : begun ++ more = round.contacts l.intent l.state.iteration)
    (number : rounds.length + 1 = l.state.iteration) :
    InRounds (contacts ++ more) (l.judged verdict) .between := by
  refine ⟨rounds ++ [round], [], ?_, .between, ?_⟩
  · rw [Loop.judged_intent, Round.trace_concat, Nat.zero_add, number, ← whole, split,
      List.append_assoc, List.append_nil]
  · rw [Loop.judged_iteration, ← number, List.length_append]
    rfl

/-- An answered read settles the iteration that finds no drift, or learns nothing. -/
theorem complete_reading {result : Except EnforcementError OperationalState} {verdict : Verdict}
    (h : InRounds contacts l .reading) (none : ¬FindsDrift l.intent result) :
    InRounds (contacts ++ [.answered result, .ends l.state.iteration verdict.outcome])
      (l.judged verdict) .between := by
  obtain ⟨rounds, begun, split, ⟨⟩, number⟩ := h
  refine complete ⟨result, verdict.outcome⟩ split ?_ number
  rw [Round.contacts_of_no_drift _ _ none]
  rfl

/-- Behind a drift, the end of the apply settles the iteration. -/
theorem complete_applying {verdict : Verdict} (h : InRounds contacts l .applying) :
    InRounds (contacts ++ [.ends l.state.iteration verdict.outcome]) (l.judged verdict)
      .between := by
  obtain ⟨rounds, begun, split, ⟨⟩, number⟩ := h
  case applying observed differs =>
    refine complete ⟨.ok observed, verdict.outcome⟩ split ?_ number
    rw [Round.contacts_of_drift ⟨.ok observed, _⟩ _ differs]
    rfl

theorem settles {stimulus : Stimulus} {cause : Cause} {verdict : Verdict}
    (judges : l.Judges now stimulus cause verdict) (h : InRounds contacts l l.point.stage) :
    InRounds (contacts ++
        (stimulus.contact?.toList ++ [.ends l.state.iteration verdict.outcome]))
      (l.judged verdict) .between := by
  rw [judges.stage] at h
  cases judges with
  | unread reading => exact h.complete_reading id
  | compliant reading same => exact h.complete_reading fun drift => drift (isCompliant_iff.mp same)
  | applied applying inTime => exact h.complete_applying
  | failed applying inTime => exact h.complete_applying
  | timedOut applying late => exact h.complete_applying

/-- A step goes on in rounds. -/
theorem of_step {stimulus : Stimulus} {effects : List Effect}
    (taken : l.step now stimulus = some (l', effects)) (h : InRounds contacts l l.point.stage) :
    InRounds (contacts ++ (stimulus.contact?.toList ++ contactsIn effects)) l' l'.point.stage := by
  have transition := Loop.transition_of_step taken
  have quiet := transition.contact?_eq_none
  have progress := transition.progress
  generalize hresult : (l', effects) = result at progress
  cases progress with
  | proceeds free proceeds =>
    cases hresult
    rw [Point.stage_eq_between.mpr free] at h
    rw [quiet free]
    exact h.proceeds proceeds
  | beside busy outside same point idle =>
    cases hresult
    rw [Stimulus.contact?_of_isOutside outside, idle.contactsIn_eq, point, Option.toList_none,
      List.append_nil, List.append_nil]
    exact h.congr same.intent same.iteration
  | drifts reading differs =>
    cases hresult
    rw [reading] at h
    exact (h.drifts differs).congr rfl rfl
  | @settles _ cause verdict judges =>
    rw [Loop.conclude_eq] at hresult
    cases hresult
    rw [contactsIn_append, contactsIn_told, ← List.append_assoc _ [_], ← List.append_assoc contacts]
    exact (settles judges h).proceeds (Loop.proceeds_goOn cause)

end InRounds

theorem Execution.inRounds {name : String} {intent : Intent} {options : LoopOptions}
    {moves : List Move} {l : Loop} (h : Execution (Loop.create name intent options) moves l) :
    InRounds (contactsOf moves) l l.point.stage := by
  induction h with
  | start => exact ⟨[], [], rfl, .between, rfl⟩
  | step earlier taken ih =>
    rw [contactsOf_concat]
    exact ih.of_step taken

/-! ## Numbers of calls -/

namespace Effect

@[simp] def isRead : Effect → Bool
  | .read => true
  | _ => false

@[simp] def isApply : Effect → Bool
  | .apply _ => true
  | _ => false

/-- A drift is reported. -/
@[simp] def isDrift : Effect → Bool
  | .report (.drift _ _) => true
  | _ => false

end Effect

/-- None of the effects is a call of the device or tells of a drift. -/
structure Uncalled (effects : List Effect) : Prop where
  reads : effects.countP Effect.isRead = 0
  drifts : effects.countP Effect.isDrift = 0
  applies : effects.countP Effect.isApply = 0

theorem Effect.not_call_of_isIdle {effect : Effect} (idle : effect.isIdle = true) :
    effect.isRead = false ∧ effect.isDrift = false ∧ effect.isApply = false := by
  cases effect with
  | report event => cases event <;> first | exact ⟨rfl, rfl, rfl⟩ | cases idle
  | _ => first | exact ⟨rfl, rfl, rfl⟩ | cases idle

theorem Idle.uncalled {effects : List Effect} (idle : Idle effects) : Uncalled effects where
  reads := List.countP_eq_zero.mpr fun effect member =>
    Bool.not_eq_true _ ▸ (Effect.not_call_of_isIdle (idle effect member)).1
  drifts := List.countP_eq_zero.mpr fun effect member =>
    Bool.not_eq_true _ ▸ (Effect.not_call_of_isIdle (idle effect member)).2.1
  applies := List.countP_eq_zero.mpr fun effect member =>
    Bool.not_eq_true _ ▸ (Effect.not_call_of_isIdle (idle effect member)).2.2

theorem Effect.of_not_isCall {effect : Effect} (h : effect.isCall = false) :
    effect.isRead = false ∧ effect.isApply = false := by
  cases effect with
  | read => cases h
  | apply intent => cases h
  | _ => exact ⟨rfl, rfl⟩

theorem uncalled_told (l : Loop) (cause : Cause) (verdict : Verdict) :
    Uncalled (l.told cause verdict) := by
  cases cause <;> cases verdict <;> exact ⟨rfl, rfl, rfl⟩

/-- The applies that have been started and have not ended at this stage. -/
def Stage.outstanding : Stage → Nat
  | .between | .reading => 0
  | .applying => 1

/-- The numbers of calls, of drifts found and of applies that have ended. -/
structure Called (effects : List Effect) (l : Loop) (stage : Stage) : Prop where
  reads : effects.countP Effect.isRead = l.summary.iterations
  begun : (begunIn effects).length = l.summary.iterations
  drifts : effects.countP Effect.isDrift = effects.countP Effect.isApply
  applies : effects.countP Effect.isApply =
    l.summary.applies + l.summary.applyFailures + stage.outstanding

/-- What calls nothing leaves the numbers as they are. -/
theorem Called.append {effects more : List Effect} {l l' : Loop} {stage stage' : Stage}
    (h : Called effects l stage) (uncalled : Uncalled more) (begun : begunIn more = [])
    (iterations : l'.summary.iterations = l.summary.iterations)
    (ended : l'.summary.applies + l'.summary.applyFailures + stage'.outstanding =
      l.summary.applies + l.summary.applyFailures + stage.outstanding) :
    Called (effects ++ more) l' stage' where
  reads := by
    rw [List.countP_append, uncalled.reads, iterations]
    exact h.reads
  begun := by
    rw [begunIn_append, begun, List.append_nil, iterations]
    exact h.begun
  drifts := by
    rw [List.countP_append, List.countP_append, uncalled.drifts, uncalled.applies]
    exact h.drifts
  applies := by
    rw [List.countP_append, uncalled.applies, ended]
    exact h.applies

theorem kept_called : Kept Called where
  idle := by
    intro effects more l l' stage h same idle _
    exact h.append idle.uncalled idle.begunIn_eq (by rw [same.summary]) (by rw [same.summary])
  begins := by
    intro effects l cause h
    refine ⟨?_, ?_, ?_, ?_⟩
    · rw [List.countP_append, h.reads]
      rfl
    · rw [begunIn_append, List.length_append, h.begun]
      rfl
    · rw [List.countP_append, List.countP_append, h.drifts]
      rfl
    · rw [List.countP_append]
      exact h.applies
  drifts := by
    intro effects l cause limit observed h differs
    refine ⟨?_, ?_, ?_, ?_⟩
    · rw [List.countP_append]
      exact h.reads
    · rw [begunIn_append, List.length_append]
      exact h.begun
    · rw [List.countP_append, List.countP_append, h.drifts]
      rfl
    · rw [List.countP_append, h.applies]
      rfl
  settles := by
    intro effects l cause verdict h
    refine h.append (uncalled_told l cause verdict) Loop.begunIn_told Loop.judged_iterations ?_
    cases verdict with
    | unread error => rfl
    | compliant observed => rfl
    | applied state => exact Nat.add_right_comm l.summary.applies 1 l.summary.applyFailures
    | failed error => rfl

/-! ## Calls and drifts -/

/--
What passes between a loop and its device is, iteration by iteration, one read, and then one apply
of the whole intent if the read has returned another state than the intended one, and no apply
otherwise; nothing passes outside the iterations. There are as many reads as iterations, and as many
applies as drifts; they have all ended, well or not, but the one that is outstanding. The intent
stays as it was.
-/
theorem apply_only_after_observed_drift {name : String} {intent : Intent} {options : LoopOptions}
    {moves : List Move} {l : Loop} (h : Execution (Loop.create name intent options) moves l) :
    (∃ rounds begun, contactsOf moves = Round.trace intent 0 rounds ++ begun ∧
      Underway intent l.state.iteration l.point.stage begun ∧
      rounds.length + l.point.stage.pending = l.state.iteration) ∧
    (effectsOf moves).countP Effect.isRead = l.summary.iterations ∧
    (begunIn (effectsOf moves)).length = l.summary.iterations ∧
    (effectsOf moves).countP Effect.isDrift = (effectsOf moves).countP Effect.isApply ∧
    (l.point.stage ≠ .applying → (effectsOf moves).countP Effect.isApply =
      l.summary.applies + l.summary.applyFailures) ∧
    (l.point.stage = .applying → (effectsOf moves).countP Effect.isApply =
      l.summary.applies + l.summary.applyFailures + 1) ∧
    l.intent = intent := by
  have same : l.intent = intent := h.sameSetup.intent
  have called : Called (effectsOf moves) l l.point.stage :=
    kept_called.of_new ⟨rfl, rfl, rfl, rfl⟩ h
  have rounds := h.inRounds
  rw [InRounds, same] at rounds
  refine ⟨rounds, called.reads, called.begun, called.drifts, fun ended => ?_, fun applying => ?_,
    same⟩
  · rw [called.applies]
    cases stage : l.point.stage with
    | applying => exact absurd stage ended
    | between => rfl
    | reading => rfl
  · rw [called.applies, applying]
    rfl

/-- A direct call whose read fails, then a run with an apply that is outstanding. -/
theorem calls_of_run_in_apply :
    let run := (Loop.create "router1" .sample .standard).replay
      [(0, .iterate), (0, .readAnswered (.error (.stateRead "no answer"))), (0, .run),
        (0, .readAnswered (.ok .drifted))]
    run.2.point.stage = .applying ∧
      (∃ rounds begun, contactsOf run.1 = Round.trace .sample 0 rounds ++ begun ∧
        Underway .sample 2 .applying begun ∧ rounds.length = 1) ∧
      (effectsOf run.1).countP Effect.isRead = 2 ∧
      (effectsOf run.1).countP Effect.isApply =
        run.2.summary.applies + run.2.summary.applyFailures + 1 := by
  intro run
  have h : Execution (Loop.create "router1" .sample .standard) run.1 run.2 := .of_replay _ _
  have applying : run.2.point.stage = .applying := by decide
  obtain ⟨⟨rounds, begun, split, underway, number⟩, -, -, -, -, outstanding, -⟩ :=
    apply_only_after_observed_drift h
  rw [applying] at underway number
  exact ⟨applying, ⟨rounds, begun, split, underway, Nat.succ.inj number⟩, by decide,
    outstanding applying⟩

end ClosedLoop
