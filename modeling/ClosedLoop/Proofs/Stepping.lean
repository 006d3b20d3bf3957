import ClosedLoop.Proofs.Progress
import ClosedLoop.Timeline

/-!
# Timelines step by step

How a timeline goes on from one thing that happens to the next, whatever device it drives.

* `Timeline.history_next`, `Timeline.history_along` — what has been done stays in the history
* `Timeline.settle?_eq_after` — a timeline that settles is one after as many steps
* `Timeline.exists_along_of_after` — each step does what can be done under some choices at ties
* `Timeline.Refuses.next`, `Timeline.Refuses.proceed` — a loop that has ended only refuses what the
  script still sends
-/

namespace ClosedLoop

namespace Timeline

variable {δ : Type} [Device δ] {messageFirst : Tick → Bool} {t t' : Timeline δ}

/-! ## Effects carried out -/

@[simp] theorem perform_now (effect : Effect) : (t.perform effect).now = t.now := by
  cases effect <;> rfl

@[simp] theorem perform_loop (effect : Effect) : (t.perform effect).loop = t.loop := by
  cases effect <;> rfl

@[simp] theorem perform_script (effect : Effect) : (t.perform effect).script = t.script := by
  cases effect <;> rfl

@[simp] theorem perform_log (effect : Effect) :
    (t.perform effect).log = (t.now, effect) :: t.log := by
  cases effect <;> rfl

/-- Carries out effects one after the other. -/
def performAll (t : Timeline δ) (effects : List Effect) : Timeline δ :=
  effects.foldl perform t

@[simp] theorem performAll_nil : t.performAll [] = t := rfl

@[simp] theorem performAll_cons (effect : Effect) (effects : List Effect) :
    t.performAll (effect :: effects) = (t.perform effect).performAll effects := rfl

@[simp] theorem performAll_append (effects effects' : List Effect) :
    t.performAll (effects ++ effects') = (t.performAll effects).performAll effects' :=
  List.foldl_append

@[simp] theorem performAll_now (effects : List Effect) : (t.performAll effects).now = t.now := by
  induction effects generalizing t with
  | nil => rfl
  | cons effect effects ih => rw [performAll_cons, ih, perform_now]

@[simp] theorem performAll_loop (effects : List Effect) :
    (t.performAll effects).loop = t.loop := by
  induction effects generalizing t with
  | nil => rfl
  | cons effect effects ih => rw [performAll_cons, ih, perform_loop]

@[simp] theorem performAll_script (effects : List Effect) :
    (t.performAll effects).script = t.script := by
  induction effects generalizing t with
  | nil => rfl
  | cons effect effects ih => rw [performAll_cons, ih, perform_script]

/-- Effects with the time at which they are carried out. -/
def stamped (now : Tick) (effects : List Effect) : List (Tick × Effect) :=
  effects.map fun effect => (now, effect)

theorem history_performAll (effects : List Effect) :
    (t.performAll effects).history = t.history ++ stamped t.now effects := by
  induction effects generalizing t with
  | nil => simp [stamped]
  | cons effect effects ih =>
    rw [performAll_cons, ih, perform_now, history, perform_log, List.reverse_cons,
      List.append_assoc]
    rfl

/-- Effects that are no calls leave the device alone. -/
theorem performAll_of_quiet {effects : List Effect}
    (quiet : ∀ effect ∈ effects, effect.isCall = false) :
    (t.performAll effects).device = t.device ∧ (t.performAll effects).call = t.call := by
  induction effects generalizing t with
  | nil => exact ⟨rfl, rfl⟩
  | cons effect effects ih =>
    have first : (t.perform effect).device = t.device ∧ (t.perform effect).call = t.call := by
      have still := quiet effect (List.mem_cons_self ..)
      cases effect with
      | read => cases still
      | apply intent => cases still
      | _ => exact ⟨rfl, rfl⟩
    have rest := ih (t := t.perform effect) fun e member => quiet e (List.mem_cons_of_mem _ member)
    rw [performAll_cons]
    exact ⟨rest.1.trans first.1, rest.2.trans first.2⟩

theorem performAll_idle {effects : List Effect} (idle : Idle effects) :
    (t.performAll effects).device = t.device ∧ (t.performAll effects).call = t.call :=
  performAll_of_quiet fun effect member => (Effect.of_isIdle (idle effect member)).2.2.2

/-- What the steps of the loop did, in order. -/
def effects (t : Timeline δ) : List Effect :=
  t.history.map Prod.snd

theorem effects_performAll (effects' : List Effect) :
    (t.performAll effects').effects = t.effects ++ effects' := by
  rw [effects, history_performAll, List.map_append, stamped, List.map_map]
  simp [effects, Function.comp_def]

/-- What is done on the way from one timeline to a later one. -/
def since (t t' : Timeline δ) : List Effect :=
  t'.effects.drop t.effects.length

omit [Device δ] in
theorem since_of_effects {effects' : List Effect} (h : t'.effects = t.effects ++ effects') :
    t.since t' = effects' := by
  rw [since, h, List.drop_left]

omit [Device δ] in
theorem since_self : t.since t = [] :=
  List.drop_length

theorem since_performAll {loop : Loop} (effects : List Effect) :
    t.since ({ t with loop }.performAll effects) = effects :=
  since_of_effects (effects_performAll effects)

/-! ## Stimuli -/

theorem feed_of_step {stimulus : Stimulus} {loop : Loop} {effects : List Effect}
    (h : t.loop.step t.now stimulus = some (loop, effects)) :
    t.feed stimulus = { t with loop }.performAll effects := by
  rw [feed, h]
  rfl

theorem feed_of_none {stimulus : Stimulus} (h : t.loop.step t.now stimulus = none) :
    t.feed stimulus = t := by
  rw [feed, h]

/-- A stimulus is lost, or the loop takes a step and its effects are carried out. -/
theorem feed_cases (t : Timeline δ) (stimulus : Stimulus) :
    t.feed stimulus = t ∨
      ∃ loop effects, t.loop.step t.now stimulus = some (loop, effects) ∧
        t.feed stimulus = { t with loop }.performAll effects := by
  cases h : t.loop.step t.now stimulus with
  | none => exact .inl (feed_of_none h)
  | some result => exact .inr ⟨result.1, result.2, rfl, feed_of_step h⟩

theorem feed_script (stimulus : Stimulus) : (t.feed stimulus).script = t.script := by
  rcases t.feed_cases stimulus with same | ⟨loop, effects, -, fed⟩
  · rw [same]
  · rw [fed, performAll_script]

theorem happen_script (due : Due) : (t.happen due).script = t.script := by
  cases due with
  | answer call =>
    show (t.answer call).script = t.script
    unfold answer
    split
    · exact feed_script (t := { t with call := none, device := _ }) _
    · exact feed_script (t := { t with call := none }) _
  | timeUp => exact feed_script (t := { t with call := none }) _
  | receive => exact feed_script _

theorem history_feed (stimulus : Stimulus) : t.history <+: (t.feed stimulus).history := by
  rcases t.feed_cases stimulus with same | ⟨loop, effects, -, fed⟩
  · exact same.symm ▸ List.prefix_refl _
  · rw [fed, history_performAll]
    exact List.prefix_append _ _

theorem history_answer (call : Call) : t.history <+: (t.answer call).history := by
  unfold answer
  split
  · exact history_feed (t := { t with call := none, device := _ }) _
  · exact history_feed (t := { t with call := none }) _

theorem history_happen (due : Due) : t.history <+: (t.happen due).history := by
  cases due with
  | answer call => exact history_answer call
  | timeUp => exact history_feed (t := { t with call := none }) _
  | receive => exact history_feed _

theorem history_act (action : Action δ) : t.history <+: (t.act action).history := by
  cases action with
  | send message => exact history_feed _
  | change edit => exact List.prefix_refl _

theorem history_play (script : List (Planned δ)) : t.history <+: (t.play script).history := by
  induction script generalizing t with
  | nil => exact List.prefix_refl _
  | cons planned rest ih =>
    rw [play]
    split
    · exact (history_act planned.action).trans ih
    · exact List.prefix_refl _

theorem sameSetup_feed (stimulus : Stimulus) : Loop.SameSetup t.loop (t.feed stimulus).loop := by
  rcases t.feed_cases stimulus with same | ⟨loop, effects, taken, fed⟩
  · rw [same]
    exact .refl _
  · rw [fed, performAll_loop]
    exact (Loop.transition_of_step taken).sameSetup

theorem sameSetup_act (action : Action δ) : Loop.SameSetup t.loop (t.act action).loop := by
  cases action with
  | send message => exact sameSetup_feed _
  | change edit => exact .refl _

theorem sameSetup_play (script : List (Planned δ)) :
    Loop.SameSetup t.loop (t.play script).loop := by
  induction script generalizing t with
  | nil => exact .refl _
  | cons planned rest ih =>
    rw [play]
    split
    · exact (sameSetup_act planned.action).trans ih
    · exact .refl _

/-! ## What is due -/

section

omit [Device δ]

variable {cause : Cause} {call : Call}

theorem next?_of_reading (point : t.loop.point = .reading cause) (called : t.call = some call) :
    t.next? messageFirst = some (call.due, .answer call) := by
  simp only [next?, point, called, Option.map_some]

theorem next?_of_applying {limit : Tick} (point : t.loop.point = .applying cause limit)
    (called : t.call = some call) (inTime : call.due ≤ limit) :
    t.next? messageFirst = some (call.due, .answer call) := by
  simp only [next?, point, called, if_pos inTime]

theorem next?_of_waiting {deadline : Tick} (point : t.loop.point = .waiting deadline)
    (empty : t.loop.queue = []) : t.next? messageFirst = some (deadline, .timeUp) := by
  simp only [next?, point, empty, List.isEmpty_nil, if_true]

theorem next?_of_ended (ended : t.loop.hasEnded = true) : t.next? messageFirst = none := by
  unfold next?
  rcases Loop.hasEnded_iff.mp ended with at_ | at_ <;> rw [at_]

/-- What is due between two iterations is the end of the wait or a message. -/
theorem due_of_free {due : Tick} {what : Due} (free : t.loop.point.cause? = none)
    (next : t.next? messageFirst = some (due, what)) : what = .timeUp ∨ what = .receive := by
  unfold next? at next
  split at next
  · next cause reading => rw [reading] at free; cases free
  · next cause limit applying => rw [applying] at free; cases free
  · split at next
    · cases next
      exact .inl rfl
    · split at next
      · cases next
        exact .inl rfl
      · cases next
        exact .inr rfl
  · cases next

/-- All that can be due: an answer to a call, the limit of an apply, or something in the wait. -/
theorem next?_cases {due : Tick} {what : Due} (next : t.next? messageFirst = some (due, what)) :
    (∃ cause call, t.loop.point = .reading cause ∧ t.call = some call ∧ what = .answer call) ∨
      (∃ cause limit, t.loop.point = .applying cause limit ∧ due ≤ limit ∧
        (due = limit ∧ what = .timeUp ∨ ∃ call, t.call = some call ∧ what = .answer call)) ∨
      (t.loop.point.cause? = none ∧ (what = .timeUp ∨ what = .receive)) := by
  cases point : t.loop.point with
  | reading cause =>
    simp only [next?, point, Option.map_eq_some_iff] at next
    obtain ⟨call, called, answers⟩ := next
    cases answers
    exact .inl ⟨cause, call, rfl, called, rfl⟩
  | applying cause limit =>
    refine .inr (.inl ⟨cause, limit, rfl, ?_⟩)
    simp only [next?, point] at next
    split at next
    · next call called =>
      split at next
      · next inTime => cases next; exact ⟨inTime, .inr ⟨call, called, rfl⟩⟩
      · cases next; exact ⟨Nat.le_refl _, .inl ⟨rfl, rfl⟩⟩
    · cases next; exact ⟨Nat.le_refl _, .inl ⟨rfl, rfl⟩⟩
  | _ =>
    have free : t.loop.point.cause? = none := by rw [point]; rfl
    exact .inr (.inr ⟨rfl, due_of_free free next⟩)

/-- The choice at ties does not say when something happens next. -/
theorem max_next? {messageFirst' : Tick → Bool} {due due' : Tick} {what what' : Due}
    (next : t.next? messageFirst = some (due, what))
    (next' : t.next? messageFirst' = some (due', what')) : max t.now due = max t.now due' := by
  cases point : t.loop.point with
  | waiting deadline =>
    simp only [next?, point] at next next'
    split at next
    · next empty =>
      rw [if_pos empty] at next'
      cases next
      cases next'
      rfl
    · next queued =>
      rw [if_neg queued] at next'
      -- With a message in the queue something happens at once.
      have now : max t.now due = t.now := by
        split at next <;> cases next <;> simp_all
      have now' : max t.now due' = t.now := by
        split at next' <;> cases next' <;> simp_all
      rw [now, now']
  | _ =>
    have same : t.next? messageFirst = t.next? messageFirst' := by simp only [next?, point]
    cases (next.symm.trans same).trans next'
    rfl

theorem exists_next?_of_applying {limit : Tick} (applying : t.loop.point = .applying cause limit)
    (messageFirst : Tick → Bool) :
    ∃ due what, t.next? messageFirst = some (due, what) ∧ due ≤ limit := by
  simp only [next?, applying]
  split
  · split
    · next inTime => exact ⟨_, _, rfl, inTime⟩
    · exact ⟨_, _, rfl, Nat.le_refl _⟩
  · exact ⟨_, _, rfl, Nat.le_refl _⟩

/-- Nor does it say whether anything does. -/
theorem next?_eq_none {messageFirst' : Tick → Bool} (done : t.next? messageFirst = none) :
    t.next? messageFirst' = none := by
  cases point : t.loop.point with
  | waiting deadline =>
    simp only [next?, point] at done
    split at done
    · cases done
    · split at done <;> cases done
  | _ =>
    have same : t.next? messageFirst = t.next? messageFirst' := by simp only [next?, point]
    exact same.symm.trans done

end

/-! ## One thing after the other -/

/-- A timeline goes on by the loop, by the script, or not at all. -/
theorem step?_cases (messageFirst : Tick → Bool) (t : Timeline δ) :
    (∃ due what, t.next? messageFirst = some (due, what) ∧
        t.step? messageFirst = some ({ t with now := max t.now due }.happen what)) ∨
      (∃ now, t.step? messageFirst = some ({ t with now }.play t.script)) ∨
      (t.next? messageFirst = none ∧ t.script = [] ∧ t.step? messageFirst = none) := by
  unfold step?
  split
  · next due what next empty => exact .inl ⟨due, what, next, rfl⟩
  · next due what planned rest next script =>
    split
    · exact .inl ⟨due, what, next, rfl⟩
    · exact .inr (.inl ⟨_, rfl⟩)
  · exact .inr (.inl ⟨_, rfl⟩)
  · next next empty => exact .inr (.inr ⟨next, empty, rfl⟩)

/-- With nothing left of the script, a timeline goes on by the loop. -/
theorem step?_of_next {due : Tick} {what : Due} (script : t.script = [])
    (next : t.next? messageFirst = some (due, what)) :
    t.step? messageFirst = some ({ t with now := max t.now due }.happen what) := by
  simp only [step?, next, script]

theorem step?_of_ended (script : t.script = []) (ended : t.loop.hasEnded = true) :
    t.step? messageFirst = none := by
  simp only [step?, next?_of_ended ended, script]

/-- The timeline behind the next thing that happens, or as it is if nothing does. -/
def next (messageFirst : Tick → Bool) (t : Timeline δ) : Timeline δ :=
  (t.step? messageFirst).getD t

/-- The timeline behind a number of things that happen, or as many as there are. -/
def after (messageFirst : Tick → Bool) : Nat → Timeline δ → Timeline δ
  | 0, t => t
  | steps + 1, t => after messageFirst steps (t.next messageFirst)

theorem after_add (steps steps' : Nat) :
    t.after messageFirst (steps + steps') =
      (t.after messageFirst steps).after messageFirst steps' := by
  induction steps generalizing t with
  | zero => rw [Nat.zero_add]; rfl
  | succ steps ih => rw [Nat.add_right_comm]; exact ih

theorem after_of_step?_eq_none (h : t.step? messageFirst = none) (steps : Nat) :
    t.after messageFirst steps = t := by
  induction steps with
  | zero => rfl
  | succ steps ih => rw [after, next, h]; exact ih

theorem settle?_eq_after {fuel : Nat} (h : t.settle? messageFirst fuel = some t') :
    t' = t.after messageFirst fuel ∧ t'.step? messageFirst = none := by
  induction fuel generalizing t with
  | zero => cases h
  | succ fuel ih =>
    rw [settle?] at h
    cases taken : t.step? messageFirst with
    | some t₁ =>
      rw [taken] at h
      have same : t.next messageFirst = t₁ := by rw [next, taken]; rfl
      rw [after, same]
      exact ih h
    | none =>
      rw [taken] at h
      cases h
      exact ⟨(after_of_step?_eq_none taken _).symm, taken⟩

theorem history_next : t.history <+: (t.next messageFirst).history := by
  rw [next]
  rcases t.step?_cases messageFirst with ⟨due, what, -, taken⟩ | ⟨now, taken⟩ | ⟨-, -, done⟩
  · rw [taken]
    exact history_happen (t := { t with now := max t.now due }) what
  · rw [taken]
    exact history_play (t := { t with now }) _
  · rw [done]
    exact List.prefix_refl _

theorem history_after (steps : Nat) : t.history <+: (t.after messageFirst steps).history := by
  induction steps generalizing t with
  | zero => exact List.prefix_refl _
  | succ steps ih => exact history_next.trans ih

/-- A timeline settles if what keeps it going gets less with each thing that happens. -/
theorem exists_settle? {kept : Timeline δ → Prop} {measure : Timeline δ → Nat}
    (goes : ∀ t, kept t → t.step? messageFirst = none ∨
      ∃ t', t.step? messageFirst = some t' ∧ kept t' ∧ measure t' < measure t)
    {fuel : Nat} (h : kept t) (enough : measure t < fuel) :
    ∃ t', t.settle? messageFirst fuel = some t' ∧ kept t' ∧ t'.step? messageFirst = none := by
  -- The fuel stays above the measure, so that it cannot run out first.
  induction fuel generalizing t with
  | zero => exact absurd enough (Nat.not_lt_zero _)
  | succ fuel ih =>
    rw [settle?]
    rcases goes t h with done | ⟨t', taken, kept', less⟩
    · rw [done]
      exact ⟨t, rfl, h, done⟩
    · rw [taken]
      exact ih kept' (by omega)

/-! ## Ties decided one by one -/

/-- A timeline goes on by the loop, by the first planned action, or not at all. -/
theorem proceed_cases (choice : Choice) (t : Timeline δ) :
    (∃ due what, t.next? (fun _ => choice.messageFirst) = some (due, what) ∧
        t.proceed choice = { t with now := max t.now due }.happen what) ∨
      (∃ planned rest, t.proceed choice = t.playFirst planned rest) ∨ t.proceed choice = t := by
  unfold proceed
  split
  · next due what next empty => exact .inl ⟨due, what, next, rfl⟩
  · next due what planned rest next script =>
    split
    · exact .inl ⟨due, what, next, rfl⟩
    · exact .inr (.inl ⟨planned, rest, rfl⟩)
  · exact .inr (.inl ⟨_, _, rfl⟩)
  · exact .inr (.inr rfl)

theorem history_proceed (choice : Choice) : t.history <+: (t.proceed choice).history := by
  rcases proceed_cases choice t with ⟨due, what, -, taken⟩ | ⟨planned, rest, taken⟩ | same
  · rw [taken]
    exact history_happen (t := { t with now := max t.now due }) what
  · rw [taken]
    exact history_act (t := { t with now := max t.now planned.time, script := rest }) planned.action
  · exact same.symm ▸ List.prefix_refl _

@[simp] theorem along_nil : t.along [] = t := rfl

@[simp] theorem along_cons (choice : Choice) (choices : List Choice) :
    t.along (choice :: choices) = (t.proceed choice).along choices := rfl

theorem along_append (choices choices' : List Choice) :
    t.along (choices ++ choices') = (t.along choices).along choices' :=
  List.foldl_append

theorem history_along (choices : List Choice) : t.history <+: (t.along choices).history := by
  induction choices generalizing t with
  | nil => exact List.prefix_refl _
  | cons choice choices ih => exact (history_proceed choice).trans ih

/-! ## A step as a row of choices -/

theorem performAll_withScript (script : List (Planned δ)) (effects : List Effect) :
    { t with script }.performAll effects = { t.performAll effects with script } := by
  induction effects generalizing t with
  | nil => rfl
  | cons effect effects ih =>
    have first : { t with script }.perform effect = { t.perform effect with script } := by
      cases effect <;> rfl
    rw [performAll_cons, performAll_cons, first, ih]

theorem act_withScript (script : List (Planned δ)) (action : Action δ) :
    { t with script }.act action = { t.act action with script } := by
  cases action with
  | change edit => rfl
  | send message =>
    cases taken : t.loop.step t.now (.send message) with
    | none => rw [act, act, feed_of_none taken, feed_of_none (t := { t with script }) taken]
    | some result =>
      rw [act, act, feed_of_step taken, feed_of_step (t := { t with script }) taken]
      exact performAll_withScript (t := { t with loop := result.1 }) script result.2

theorem proceed_eq_happen {choice : Choice} {due : Tick} {what : Due}
    (next : t.next? (fun _ => choice.messageFirst) = some (due, what))
    (loopFirst : ∀ planned rest, t.script = planned :: rest →
      choice.loopFirst (max t.now due) (max t.now planned.time) = true) :
    t.proceed choice = { t with now := max t.now due }.happen what := by
  cases script : t.script with
  | nil => simp only [proceed, next, script]
  | cons planned rest => simp only [proceed, next, script, loopFirst planned rest script, if_true]

theorem proceed_eq_playFirst {choice : Choice} {planned : Planned δ} {rest : List (Planned δ)}
    (script : t.script = planned :: rest)
    (loopLast : ∀ due what, t.next? (fun _ => choice.messageFirst) = some (due, what) →
      choice.loopFirst (max t.now due) (max t.now planned.time) = false) :
    t.proceed choice = t.playFirst planned rest := by
  cases next : t.next? fun _ => choice.messageFirst with
  | none => simp only [proceed, next, script]
  | some thing =>
    have last := loopLast thing.1 thing.2 next
    simp only [proceed, next, script, last, Bool.false_eq_true, if_false]

/-- A planned action whose time has come happens at once if the script goes first. -/
theorem proceed_of_scriptFirst {planned : Planned δ} {rest : List (Planned δ)} (messageFirst : Bool)
    (script : t.script = planned :: rest) (come : planned.time ≤ t.now) :
    t.proceed ⟨true, messageFirst⟩ = { t with script := rest }.act planned.action := by
  have atOnce : max t.now planned.time = t.now := Nat.max_eq_left come
  have loopLast (due : Tick) :
      Choice.loopFirst ⟨true, messageFirst⟩ (max t.now due) (max t.now planned.time) = false := by
    rw [atOnce]
    exact decide_eq_false (Nat.not_lt.mpr (Nat.le_max_left _ _))
  rw [proceed_eq_playFirst script fun due _ _ => loopLast due, playFirst, atOnce]

/-- The planned actions whose time has come happen one by one if the script goes first. -/
theorem exists_along_of_play (script : List (Planned δ)) :
    ∃ choices, t.play script = { t with script }.along choices := by
  induction script generalizing t with
  | nil => exact ⟨[], rfl⟩
  | cons planned rest ih =>
    rw [play]
    split
    · next come =>
      obtain ⟨choices, played⟩ := ih (t := t.act planned.action)
      refine ⟨⟨true, true⟩ :: choices, ?_⟩
      rw [played, along_cons, ← act_withScript,
        proceed_of_scriptFirst (t := { t with script := planned :: rest }) true rfl come]
    · exact ⟨[], rfl⟩

/-- A script that is due before the loop goes first without a tie, and then at each one. -/
theorem exists_along_of_loopLast (messageFirst : Tick → Bool) {planned : Planned δ}
    {rest : List (Planned δ)} (script : t.script = planned :: rest)
    (loopLast : ∀ due what, t.next? messageFirst = some (due, what) →
      ¬max t.now due ≤ max t.now planned.time) :
    ∃ choices, { t with now := max t.now planned.time }.play t.script = t.along choices := by
  obtain ⟨choices, behind⟩ := exists_along_of_play rest
    (t := { t with now := max t.now planned.time }.act planned.action)
  have first : t.proceed ⟨false, messageFirst t.now⟩ = t.playFirst planned rest :=
    proceed_eq_playFirst script fun due what next => decide_eq_false (loopLast due what next)
  have come : planned.time ≤ max t.now planned.time := Nat.le_max_right _ _
  refine ⟨⟨false, messageFirst t.now⟩ :: choices, ?_⟩
  rw [script] at behind ⊢
  rw [play, if_pos come, behind, along_cons, first, playFirst, ← act_withScript]

/-- A step of a timeline does what can be done under some choices at ties. -/
theorem exists_along_of_step? (taken : t.step? messageFirst = some t') :
    ∃ choices, t' = t.along choices := by
  unfold step? at taken
  split at taken
  · next due what next empty =>
    cases taken
    have first : t.proceed ⟨false, messageFirst t.now⟩ =
        { t with now := max t.now due }.happen what :=
      proceed_eq_happen next fun _ _ script => nomatch empty.symm.trans script
    exact ⟨[_], first.symm⟩
  · next due what planned rest next script =>
    split at taken
    · next loopFirst =>
      cases taken
      have first : t.proceed ⟨false, messageFirst t.now⟩ =
          { t with now := max t.now due }.happen what := by
        refine proceed_eq_happen next fun planned' rest' script' => ?_
        cases script.symm.trans script'
        exact decide_eq_true loopFirst
      exact ⟨[_], first.symm⟩
    · next scriptFirst =>
      cases taken
      refine exists_along_of_loopLast messageFirst script fun due' what' next' => ?_
      cases next.symm.trans next'
      exact scriptFirst
  · next planned rest next script =>
    cases taken
    exact exists_along_of_loopLast messageFirst script fun _ _ next' => nomatch next.symm.trans next'
  · cases taken

/-- So does any number of them: a run under a script is one of those with each tie decided. -/
theorem exists_along_of_after (messageFirst : Tick → Bool) (t : Timeline δ) (steps : Nat) :
    ∃ choices, t.after messageFirst steps = t.along choices := by
  induction steps generalizing t with
  | zero => exact ⟨[], rfl⟩
  | succ steps ih =>
    have first : ∃ choices, t.next messageFirst = t.along choices := by
      rw [next]
      cases taken : t.step? messageFirst with
      | none => exact ⟨[], rfl⟩
      | some t' => exact exists_along_of_step? taken
    obtain ⟨choices, same⟩ := first
    obtain ⟨choices', same'⟩ := ih (t.next messageFirst)
    exact ⟨choices ++ choices', by rw [after, same', same, along_append]⟩

/-! ## Schedules -/

/--
What a timeline can become while nobody changes its device: calls of the loop, messages and handles
at any time, with any choice at ties; the clock does not go past what is due.
-/
inductive Reaches (t : Timeline δ) : Timeline δ → Prop where
  | start : Reaches t t
  | feed {u : Timeline δ} {stimulus : Stimulus} (earlier : Reaches t u)
      (outside : stimulus.isOutside = true) : Reaches t (u.feed stimulus)
  | pass {u : Timeline δ} {now : Tick} (earlier : Reaches t u) (forward : u.now ≤ now)
      (inTime : ∀ messageFirst due what, u.next? messageFirst = some (due, what) →
        now ≤ max u.now due) : Reaches t { u with now }
  | happen {u : Timeline δ} {messageFirst : Tick → Bool} {due : Tick} {what : Due}
      (earlier : Reaches t u) (next : u.next? messageFirst = some (due, what)) :
      Reaches t ({ u with now := max u.now due }.happen what)

/-! ## Behind the end of a loop -/

/-- An effect of a loop that has ended: a message is refused, and a request told so. -/
def isRefusal : Tick × Effect → Bool
  | (_, .refused _) | (_, .reply _ (.error _)) => true
  | _ => false

/-- The loop has ended, and since the history given was written it has done nothing but refuse. -/
structure Refuses (t : Timeline δ) (history : List (Tick × Effect)) : Prop where
  ended : t.loop.hasEnded = true
  only : ∃ refusals, t.history = history ++ refusals ∧ ∀ entry ∈ refusals, isRefusal entry = true

omit [Device δ] in
theorem Refuses.refl (ended : t.loop.hasEnded = true) : Refuses t t.history :=
  ⟨ended, [], (List.append_nil _).symm, nofun⟩

theorem isRefusal_of_mem_unanswered {now : Tick} {messages : List Message} :
    ∀ entry ∈ stamped now (Loop.unanswered messages), isRefusal entry = true := by
  intro entry member
  rw [stamped, Loop.unanswered_eq, List.map_map] at member
  obtain ⟨request, -, rfl⟩ := List.mem_map.mp member
  rfl

theorem Refuses.act {history : List (Tick × Effect)} (h : Refuses t history) (action : Action δ) :
    Refuses (t.act action) history := by
  cases action with
  | change edit => exact ⟨h.ended, h.only⟩
  | send message =>
    rcases t.feed_cases (.send message) with same | ⟨loop, effects, taken, fed⟩
    · rw [Timeline.act, same]
      exact h
    · obtain ⟨refusals, told, only⟩ := h.only
      have transition := Loop.transition_of_step taken
      rw [Timeline.act, fed]
      generalize hresult : (loop, effects) = result at transition
      cases transition with
      | conclude judges => cases judges
      | accept goes => exact nomatch goes.symm.trans h.ended
      | refuse ended =>
        cases hresult
        refine ⟨by rw [performAll_loop]; exact ended,
          refusals ++ stamped t.now (.refused message :: Loop.unanswered [message]), ?_, ?_⟩
        · rw [history_performAll, ← List.append_assoc, ← told]
        · intro entry member
          rcases List.mem_append.mp member with earlier | later
          · exact only entry earlier
          · rcases List.mem_cons.mp later with rfl | left
            · rfl
            · exact isRefusal_of_mem_unanswered entry left

theorem Refuses.play {history : List (Tick × Effect)} (h : Refuses t history)
    (script : List (Planned δ)) : Refuses (t.play script) history := by
  induction script generalizing t with
  | nil => exact ⟨h.ended, h.only⟩
  | cons planned rest ih =>
    rw [Timeline.play]
    split
    · exact ih (h.act planned.action)
    · exact ⟨h.ended, h.only⟩

theorem Refuses.next {history : List (Tick × Effect)} (h : Refuses t history) :
    Refuses (t.next messageFirst) history := by
  rw [Timeline.next]
  rcases t.step?_cases messageFirst with ⟨due, what, next, -⟩ | ⟨now, taken⟩ | ⟨-, -, done⟩
  · rw [next?_of_ended h.ended] at next
    cases next
  · rw [taken]
    have late : Refuses { t with now } history := ⟨h.ended, h.only⟩
    exact late.play t.script
  · rw [done]
    exact h

theorem Refuses.proceed {history : List (Tick × Effect)} (h : Refuses t history)
    (choice : Choice) : Refuses (t.proceed choice) history := by
  rcases proceed_cases choice t with ⟨due, what, next, -⟩ | ⟨planned, rest, taken⟩ | same
  · rw [next?_of_ended h.ended] at next
    cases next
  · rw [taken]
    have late : Refuses { t with now := max t.now planned.time, script := rest } history :=
      ⟨h.ended, h.only⟩
    exact late.act planned.action
  · rw [same]
    exact h

end Timeline

end ClosedLoop
