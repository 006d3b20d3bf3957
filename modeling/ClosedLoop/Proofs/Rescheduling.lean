import ClosedLoop.Proofs.Calls
import ClosedLoop.Proofs.Stepping
import ClosedLoop.Device.Bench
import ClosedLoop.Sample

/-!
# The schedule behind requests

An iteration that was requested in the wait sets the timer anew: the next regular one comes the
delay called for at its end later, whatever the timer was set to before. Behind one that was taken
before a regular iteration there is no delay at all: the regular iteration begins where it ends.

* `Loop.Transition.settles_of_reply` — a request is answered with an outcome at the end of its
  iteration
* `Timeline.StillWaits`, `Timeline.BeginsRegular` — until the deadline nothing is done, and then the
  iteration begins
* `Timeline.regular_iteration_behind_request` — the next regular iteration behind a request in the
  wait
* `regular_iteration_behind_drained` — the next one behind those taken before a regular iteration
-/

namespace ClosedLoop

/-! ## Answers with an outcome -/

namespace Loop

variable {l : Loop} {now : Tick} {stimulus : Stimulus} {result : Loop × List Effect} {cause : Cause}
  {request : Nat} {outcome : Outcome}

/-- In an iteration, only its end answers a request with an outcome. -/
theorem Transition.settles_of_reply (h : l.Transition now stimulus result)
    (busy : l.point.cause? = some cause) (answered : .reply request (.ok outcome) ∈ result.2) :
    ∃ verdict, l.Judges now stimulus cause verdict ∧ result = l.conclude now cause verdict := by
  cases h.progress with
  | proceeds free => exact nomatch busy.symm.trans free
  | beside _ _ _ _ idle => exact nomatch idle _ answered
  | drifts => simp at answered
  | settles judges =>
    cases busy.symm.trans judges.cause?_point
    exact ⟨_, judges, rfl⟩

/-- A loop that halts at the limit and is below it then has done what it does otherwise. -/
theorem eq_of_below {otherwise : Loop × List Effect}
    (below : (if l.limitReached then l.halt [] else otherwise).1.limitReached = false) :
    (if l.limitReached then l.halt [] else otherwise) = otherwise := by
  cases reached : l.limitReached with
  | true =>
    rw [if_pos reached] at below
    exact nomatch below.symm.trans (show (l.halt []).1.limitReached = true from reached)
  | false => exact if_neg Bool.false_ne_true

/-- Setting the timer leaves the delay as it is. -/
theorem nextDelay_resumeWait : (l.resumeWait now).1.nextDelay = l.nextDelay := by
  unfold resumeWait
  cases now.after? l.nextDelay <;> rfl

/-- Below the limit, the timer of the wait is set anew behind an iteration requested in it. -/
theorem goOn_of_awaited (below : ((l.goOn now (.awaited request)).1).limitReached = false) :
    l.goOn now (.awaited request) = l.resumeWait now :=
  eq_of_below below

/-- Below the limit, a regular iteration is followed by a wait. -/
theorem goOn_of_regular (below : ((l.goOn now .regular).1).limitReached = false) :
    l.goOn now .regular = l.startWait now :=
  eq_of_below below

end Loop

/-! ## From the end of an iteration to the deadline -/

namespace Timeline

variable {δ : Type} [Device δ] {messageFirst : Tick → Bool} {w v : Timeline δ} {deadline : Tick}

/-- Since another timeline nothing has been done but to wait for the deadline. -/
structure StillWaits (w v : Timeline δ) (deadline : Tick) : Prop where
  point : v.loop.point = .waiting deadline
  queue : v.loop.queue = []
  state : v.loop.state = w.loop.state
  options : v.loop.options = w.loop.options
  early : v.now ≤ deadline
  history : v.history = w.history

/-- Since another timeline nothing has been done but to begin the next regular iteration now. -/
structure BeginsRegular (w v : Timeline δ) : Prop where
  point : v.loop.point = .reading .regular
  number : v.loop.state.iteration = w.loop.state.iteration + 1
  history : v.history =
    w.history ++ stamped v.now [.report (.iteration v.loop.state.iteration), .read]

/-- No message is planned up to and including a point in time. -/
def SilentUntil (deadline : Tick) (script : List (Planned δ)) : Prop :=
  ∀ planned ∈ script, ∀ message, planned.action = .send message → deadline < planned.time

namespace StillWaits

omit [Device δ] in
theorem next?_eq (h : StillWaits w v deadline) :
    v.next? messageFirst = some (deadline, .timeUp) :=
  next?_of_waiting h.point h.queue

omit [Device δ] in
theorem pass (h : StillWaits w v deadline) {now : Tick} (early : now ≤ deadline) :
    StillWaits w { v with now } deadline :=
  ⟨h.point, h.queue, h.state, h.options, early, h.history⟩

/-- At the deadline the next regular iteration begins. -/
theorem ring (h : StillWaits w v deadline) (below : w.loop.limitReached = false) :
    ({ v with now := deadline }.happen .timeUp).now = deadline ∧
      BeginsRegular w ({ v with now := deadline }.happen .timeUp) := by
  have below' : v.loop.limitReached = false := by
    rw [Loop.limitReached, h.options, h.state]
    exact below
  have turned : v.loop.turn = v.loop.startIteration .regular := by
    rw [Loop.turn, h.queue]
    exact if_neg (by rw [below']; exact Bool.false_ne_true)
  have taken : v.loop.step deadline .timeUp = some (v.loop.startIteration .regular) := by
    simp only [Loop.step, h.point, Nat.le_refl, if_true, turned]
  have begun : { v with now := deadline }.happen .timeUp =
      { v with
        now := deadline
        call := none
        loop := (v.loop.startIteration .regular).1 }.performAll
          (v.loop.startIteration .regular).2 :=
    feed_of_step (t := { v with now := deadline, call := none }) taken
  have number : v.loop.state.iteration + 1 = w.loop.state.iteration + 1 := by rw [h.state]
  rw [begun]
  refine ⟨performAll_now _, ?_, ?_, ?_⟩
  · rw [performAll_loop]
    rfl
  · rw [performAll_loop]
    exact number
  · rw [history_performAll, performAll_loop, performAll_now]
    show v.history ++ _ = _
    rw [h.history]
    rfl

/-- What others do by then, other than to send messages, changes nothing of it. -/
theorem play (h : StillWaits w v deadline) {script : List (Planned δ)}
    (silent : SilentUntil deadline script) : StillWaits w (v.play script) deadline := by
  induction script generalizing v with
  | nil => exact ⟨h.point, h.queue, h.state, h.options, h.early, h.history⟩
  | cons planned rest ih =>
    rw [Timeline.play]
    split
    · next due =>
      obtain ⟨silentFirst, silentRest⟩ := List.forall_mem_cons.mp silent
      refine ih ?_ silentRest
      cases action : planned.action with
      | send message =>
        exact absurd (silentFirst message action) (Nat.not_lt.mpr (Nat.le_trans due h.early))
      | change edit => exact ⟨h.point, h.queue, h.state, h.options, h.early, h.history⟩
    · exact ⟨h.point, h.queue, h.state, h.options, h.early, h.history⟩

end StillWaits

theorem isSuffix_script_play (t : Timeline δ) (script : List (Planned δ)) :
    (t.play script).script <:+ script := by
  induction script generalizing t with
  | nil => exact List.suffix_refl _
  | cons planned rest ih =>
    rw [play]
    split
    · exact (ih _).trans (List.suffix_cons _ _)
    · exact List.suffix_refl _

/-- What is due at the head of a script is played. -/
theorem length_script_play_lt (t : Timeline δ) {planned : Planned δ} {rest : List (Planned δ)}
    (due : planned.time ≤ t.now) : (t.play (planned :: rest)).script.length < rest.length + 1 := by
  rw [play, if_pos due]
  exact Nat.lt_succ_of_le (isSuffix_script_play _ rest).length_le

/--
Without messages on the way, a step begins the next regular iteration at the deadline, or waits on
with less of the script ahead.
-/
theorem StillWaits.next_cases (h : StillWaits w v deadline)
    (silent : SilentUntil deadline v.script) :
    v.next messageFirst = { v with now := deadline }.happen .timeUp ∨
      StillWaits w (v.next messageFirst) deadline ∧
        SilentUntil deadline (v.next messageFirst).script ∧
        (v.next messageFirst).script.length < v.script.length := by
  by_cases empty : v.script = []
  · have taken : v.step? messageFirst = some ({ v with now := deadline }.happen .timeUp) := by
      rw [step?_of_next empty h.next?_eq, Nat.max_eq_right h.early]
    exact .inl (by rw [Timeline.next, taken]; rfl)
  · obtain ⟨planned, rest, script⟩ := List.exists_cons_of_ne_nil empty
    by_cases first : deadline ≤ max v.now planned.time
    · have taken : v.step? messageFirst = some ({ v with now := deadline }.happen .timeUp) := by
        simp only [step?, h.next?_eq, script, Nat.max_eq_right h.early, if_pos first]
      exact .inl (by rw [Timeline.next, taken]; rfl)
    · have taken : v.step? messageFirst =
          some ({ v with now := max v.now planned.time }.play v.script) := by
        simp only [step?, h.next?_eq, script, Nat.max_eq_right h.early, if_neg first]
      have early : max v.now planned.time ≤ deadline := Nat.le_of_lt (Nat.lt_of_not_le first)
      refine .inr ?_
      rw [Timeline.next, taken, Option.getD_some]
      refine ⟨(h.pass early).play silent,
        fun p member => silent p ((isSuffix_script_play _ _).subset member), ?_⟩
      rw [script]
      exact length_script_play_lt _ (Nat.le_max_right _ _)

/-- Without messages on the way, the next regular iteration begins at the deadline. -/
theorem StillWaits.exists_steps (h : StillWaits w v deadline) (below : w.loop.limitReached = false)
    (silent : SilentUntil deadline v.script) :
    ∃ steps, (∀ earlier < steps, StillWaits w (v.after messageFirst earlier) deadline) ∧
      (v.after messageFirst steps).now = deadline ∧
      BeginsRegular w (v.after messageFirst steps) := by
  -- By the length of the script: a step plays some of it, or is the one at the deadline.
  induction length : v.script.length using Nat.strongRecOn generalizing v with
  | ind count ih =>
    rcases h.next_cases silent with rings | ⟨waits, silent', shorter⟩
    · have next : v.after messageFirst 1 = { v with now := deadline }.happen .timeUp := rings
      refine ⟨1, fun earlier first => ?_, next ▸ h.ring below⟩
      rw [Nat.lt_one_iff.mp first]
      exact h
    · obtain ⟨steps, still, begun⟩ := ih _ (length ▸ shorter) waits silent' rfl
      refine ⟨steps + 1, fun earlier before => ?_, begun⟩
      cases earlier with
      | zero => exact h
      | succ earlier => exact still earlier (Nat.lt_of_succ_lt_succ before)

/-! ## Steps that answer a request -/

/-- What others do in an iteration does not go on with it. -/
theorem act_of_busy {t : Timeline δ} {cause : Cause} (busy : t.loop.point.cause? = some cause)
    (action : Action δ) : (t.act action).loop.point = t.loop.point ∧
      ∃ told, (t.act action).effects = t.effects ++ told ∧ Idle told := by
  cases action with
  | change edit => exact ⟨rfl, [], (List.append_nil _).symm, idle_nil⟩
  | send message =>
    rcases t.feed_cases (.send message) with same | ⟨loop, effects, taken, fed⟩
    · exact ⟨congrArg (·.loop.point) same, [], by rw [act, same, List.append_nil], idle_nil⟩
    · obtain ⟨-, point, idle, -⟩ := (Loop.transition_of_step taken).outside rfl busy
      rw [act, fed, performAll_loop, effects_performAll]
      exact ⟨point, effects, rfl, idle⟩

theorem play_of_busy {t : Timeline δ} {cause : Cause} (busy : t.loop.point.cause? = some cause)
    (script : List (Planned δ)) :
    ∃ told, (t.play script).effects = t.effects ++ told ∧ Idle told := by
  induction script generalizing t with
  | nil => exact ⟨[], (List.append_nil _).symm, idle_nil⟩
  | cons planned rest ih =>
    rw [play]
    split
    · obtain ⟨point, first, acted, idle⟩ := act_of_busy busy planned.action
      obtain ⟨others, played, idle'⟩ := ih (point ▸ busy)
      refine ⟨first ++ others, by rw [played, acted, List.append_assoc], fun effect member => ?_⟩
      exact (List.mem_append.mp member).elim (idle effect) (idle' effect)
    · exact ⟨[], (List.append_nil _).symm, idle_nil⟩

/-- What happens gives the loop a stimulus. -/
theorem happen_eq_feed (t : Timeline δ) (due : Due) : ∃ (u : Timeline δ) (stimulus : Stimulus),
    t.happen due = u.feed stimulus ∧ u.loop = t.loop ∧ u.log = t.log := by
  cases due with
  | timeUp => exact ⟨_, _, rfl, rfl, rfl⟩
  | receive => exact ⟨_, _, rfl, rfl, rfl⟩
  | answer call =>
    rw [happen, answer]
    split
    · exact ⟨_, _, rfl, rfl, rfl⟩
    · exact ⟨_, _, rfl, rfl, rfl⟩

/-- A request is answered with an outcome by a stimulus to the loop that serves it. -/
theorem exists_feed_of_answered {t : Timeline δ} {cause : Cause} {request : Nat} {outcome : Outcome}
    (busy : t.loop.point.cause? = some cause)
    (answered : .reply request (.ok outcome) ∈ t.since (t.next messageFirst)) :
    ∃ (u : Timeline δ) (stimulus : Stimulus), t.next messageFirst = u.feed stimulus ∧
      u.loop = t.loop ∧ u.log = t.log := by
  rcases t.step?_cases messageFirst with ⟨due, what, -, taken⟩ | ⟨now, taken⟩ | ⟨-, -, done⟩
  · rw [next, taken]
    exact happen_eq_feed { t with now := max t.now due } what
  · obtain ⟨told, played, idle⟩ := play_of_busy (t := { t with now }) busy t.script
    rw [next, taken, Option.getD_some, since_of_effects (t := t) played] at answered
    cases idle _ answered
  · rw [next, done, Option.getD_none, since_self] at answered
    cases answered

/-! ## Behind a request in the wait -/

/-- The end of an iteration requested in the wait, below the limit: its timer is set anew. -/
theorem feed_of_awaited {u : Timeline δ} {stimulus : Stimulus} {request : Nat} {outcome : Outcome}
    (busy : u.loop.point.cause? = some (.awaited request))
    (answered : .reply request (.ok outcome) ∈ u.since (u.feed stimulus))
    (below : (u.feed stimulus).loop.limitReached = false)
    (held : u.now.after? (u.feed stimulus).loop.nextDelay = some deadline) :
    (u.feed stimulus).loop.point = .waiting deadline ∧
      ∃ told, .reply request (.ok outcome) ∈ told ∧ (u.feed stimulus).history = u.history ++
        stamped u.now (told ++ [.report (.waiting (u.feed stimulus).loop.nextDelay)]) := by
  rcases u.feed_cases stimulus with same | ⟨loop, effects, taken, fed⟩
  · rw [same, since_self] at answered
    cases answered
  · rw [fed, since_performAll] at answered
    rw [fed, performAll_loop] at below held
    obtain ⟨verdict, -, result⟩ := (Loop.transition_of_step taken).settles_of_reply busy answered
    rw [Loop.conclude_eq] at result
    obtain ⟨rfl, rfl⟩ := Prod.mk.inj result
    have goes := Loop.goOn_of_awaited below
    have same : ((u.loop.judged verdict).goOn u.now (.awaited request)).1.nextDelay =
        (u.loop.judged verdict).nextDelay := by
      rw [goes, Loop.nextDelay_resumeWait]
    rw [fed, performAll_loop, history_performAll, same, goes, Loop.resumeWait]
    rw [same] at held
    rw [held]
    refine ⟨rfl, u.loop.told (.awaited request) verdict, ?_, rfl⟩
    rw [goes, Loop.resumeWait, held] at answered
    simpa [Loop.rearm] using answered

/--
An iteration requested in the wait that ends below the limit with no message pending tells the delay
by the failures counted then, and sets the timer to its end and that delay, in whole milliseconds.
Without messages up to that point in time, the next regular iteration begins right then: until then
nothing is done, however late the loop was behind its former deadline, and whatever others do with
the device.
-/
theorem regular_iteration_behind_request {t : Timeline δ} {request : Nat} {outcome : Outcome}
    {messageFirst : Tick → Bool} (busy : t.loop.point.cause? = some (.awaited request))
    (answered : .reply request (.ok outcome) ∈ t.since (t.next messageFirst))
    (below : (t.next messageFirst).loop.limitReached = false)
    (empty : (t.next messageFirst).loop.queue = [])
    (held : (t.next messageFirst).now.after? (t.next messageFirst).loop.nextDelay = some deadline)
    (silent : SilentUntil deadline (t.next messageFirst).script) :
    let w := t.next messageFirst
    deadline = w.now + ceilMillis w.loop.nextDelay.nanos ∧
    (∃ told, .reply request (.ok outcome) ∈ told ∧
      w.history = t.history ++ stamped w.now (told ++ [.report (.waiting w.loop.nextDelay)])) ∧
    ∃ steps, (∀ earlier < steps, StillWaits w (w.after messageFirst earlier) deadline) ∧
      (w.after messageFirst steps).now = deadline ∧
      BeginsRegular w (w.after messageFirst steps) := by
  obtain ⟨u, stimulus, fed, loop, log⟩ := exists_feed_of_answered busy answered
  have now : (u.feed stimulus).now = u.now := by
    rcases u.feed_cases stimulus with same | ⟨loop, effects, -, fed⟩
    · exact congrArg Timeline.now same
    · exact (congrArg Timeline.now fed).trans (performAll_now effects)
  have history : t.history = u.history := congrArg List.reverse log.symm
  have since (v : Timeline δ) : t.since v = u.since v :=
    congrArg (fun earlier : List (Tick × Effect) => v.effects.drop (earlier.map Prod.snd).length)
      history
  rw [← loop] at busy
  rw [fed, since] at answered
  rw [fed] at below empty held silent ⊢
  intro w
  have later : deadline = w.now + ceilMillis w.loop.nextDelay.nanos := Tick.after?_eq_some held
  obtain ⟨point, told⟩ := feed_of_awaited busy answered below (now ▸ held)
  have waits : StillWaits w w deadline :=
    ⟨point, empty, rfl, rfl, later ▸ Nat.le_add_right _ _, rfl⟩
  rw [history, now]
  exact ⟨now ▸ later, told, waits.exists_steps below silent⟩

/-- A run with two requests, the second one while the iteration for the first is given up. -/
def requestedTwice : Timeline BenchDevice :=
  let device : BenchDevice := { name := "router1", state := .drifted, applyDelay := .ofSecs 5 }
  { Timeline.create device .sample ⟨.ofSecs 1, .ofSecs 2, some .standard, none⟩ with
    script := [⟨2500, .send (.reconcile 1)⟩, ⟨3500, .send (.reconcile 2)⟩,
      ⟨8000, .change fun device => device.set (.state .drifted)⟩,
      ⟨20000, .send (.reconcile 3)⟩] }.feed .run

/-- The deadline of the first wait goes by in an apply, and the delay grows behind each failure. -/
theorem regular_iteration_behind_two_requests :
    let t := requestedTwice.after (fun _ => false) 9
    let w := t.next fun _ => false
    t.loop.point = .applying (.awaited 2) 6500 ∧
      .reply 2 (.ok .applyFailed) ∈ t.since w ∧ w.now = 6500 ∧
      w.loop.nextDelay = .ofSecs 4 ∧ w.loop.queue = [] ∧ SilentUntil 10500 w.script ∧
      ∃ steps, (∀ earlier < steps, StillWaits w (w.after (fun _ => false) earlier) 10500) ∧
        (w.after (fun _ => false) steps).now = 10500 ∧
        BeginsRegular w (w.after (fun _ => false) steps) := by
  have answered : .reply 2 (.ok .applyFailed) ∈ (requestedTwice.after (fun _ => false) 9).since
      ((requestedTwice.after (fun _ => false) 9).next fun _ => false) :=
    List.mem_of_getElem? (i := 1) (by rfl)
  have left : ((requestedTwice.after (fun _ => false) 9).next fun _ => false).script =
      [⟨8000, .change fun device => device.set (.state .drifted)⟩,
        ⟨20000, .send (.reconcile 3)⟩] := by rfl
  intro t w
  have silent : SilentUntil 10500 w.script := by simp [SilentUntil, w, t, left]
  have held : w.now.after? w.loop.nextDelay = some 10500 := by decide
  obtain ⟨-, -, steps, still, now, begins⟩ := regular_iteration_behind_request (t := t) (by decide)
    answered (by decide) (by decide) held silent
  exact ⟨by decide, answered, by decide, by decide, by decide, silent, steps, still, now, begins⟩

end Timeline

/-! ## Behind requests before a regular iteration -/

/-- The delay, at the least, lies between two points in time. -/
def Duration.LiesBetween (delay : Duration) (earlier later : Tick) : Prop :=
  earlier * nanosPerMilli + delay.nanos ≤ later * nanosPerMilli

theorem Duration.liesBetween_self {delay : Duration} {now : Tick} :
    delay.LiesBetween now now ↔ delay = .zero := by
  have fits (elapsed : Nat) : elapsed + delay.nanos ≤ elapsed ↔ delay.nanos = 0 := by omega
  rw [LiesBetween, fits, Duration.ext_iff]
  rfl

namespace Move

/--
The move ends the last iteration for a request taken before a regular iteration, and the loop goes
on.
-/
structure EndsDrain (move : Move) : Prop where
  served : ∃ request outcome, move.before.point.cause? = some (.drained request) ∧
    .reply request (.ok outcome) ∈ move.effects
  last : move.before.queue = []
  goes : move.after.hasEnded = false

/-- The move begins a regular iteration. -/
def beginsRegular (move : Move) : Bool :=
  !(begunIn move.effects).isEmpty && move.after.point == .reading .regular

/-- The next regular iteration from the move on begins the delay called for behind it, or later. -/
def KeepsDistance (move : Move) (behind : List Move) : Prop :=
  ∀ next, (move :: behind).find? beginsRegular = some next →
    move.after.nextDelay.LiesBetween move.now next.now

/-- The next regular iteration begins in the move itself. -/
theorem EndsDrain.beginsRegular {move : Move} (h : move.EndsDrain)
    (taken : move.before.step move.now move.stimulus = some (move.after, move.effects)) :
    move.beginsRegular = true := by
  obtain ⟨request, outcome, busy, answered⟩ := h.served
  obtain ⟨verdict, -, result⟩ := (Loop.transition_of_step taken).settles_of_reply busy answered
  have drained : (move.before.judged verdict).goOn move.now (.drained request) =
      (move.before.judged verdict).turn := rfl
  have empty : (move.before.judged verdict).queue = [] := by rw [Loop.judged_queue, h.last]
  rw [Loop.conclude_eq, drained, Loop.turn, empty] at result
  obtain ⟨after, effects⟩ := Prod.mk.inj result
  cases reached : (move.before.judged verdict).limitReached with
  | true =>
    simp only [reached, if_true] at after
    have ended : move.after.hasEnded = true := by rw [after]; rfl
    exact nomatch h.goes.symm.trans ended
  | false =>
    simp only [reached, Bool.false_eq_true, if_false] at after effects
    rw [Move.beginsRegular, after, effects, begunIn_append]
    simp [Loop.startIteration]

/-- Where a move begins the next regular iteration itself, no delay but none lies between. -/
theorem EndsDrain.keepsDistance_iff {move : Move} (h : move.EndsDrain)
    (taken : move.before.step move.now move.stimulus = some (move.after, move.effects))
    (behind : List Move) : move.KeepsDistance behind ↔ move.after.nextDelay = .zero := by
  rw [KeepsDistance, List.find?_cons_of_pos (h.beginsRegular taken), ← Duration.liesBetween_self]
  exact ⟨fun keeps => keeps move rfl, fun fits next found => Option.some.inj found ▸ fits⟩

end Move

/-- The schedule is set anew behind requests taken before a regular iteration. -/
def Respaced (moves : List Move) : Prop :=
  ∀ ahead move behind, moves = ahead ++ move :: behind → move.EndsDrain → move.KeepsDistance behind

/--
Behind requests taken before a regular iteration the schedule is not set anew: the regular iteration
begins where the last of them ends, so the delay is kept only where there is none.
-/
theorem regular_iteration_behind_drained {l l' : Loop} {moves : List Move}
    (h : Execution l moves l') :
    (∀ move ∈ moves, move.EndsDrain → move.beginsRegular = true) ∧
      (Respaced moves ↔ ∀ move ∈ moves, move.EndsDrain → move.after.nextDelay = .zero) := by
  have taken {ahead behind : List Move} {move : Move} (split : moves = ahead ++ move :: behind) :
      move.before.step move.now move.stimulus = some (move.after, move.effects) :=
    (split ▸ h).move_taken.2.1
  refine ⟨fun move member ends => ?_, fun respaced move member ends => ?_, fun none => ?_⟩
  · obtain ⟨ahead, behind, split⟩ := List.append_of_mem member
    exact ends.beginsRegular (taken split)
  · obtain ⟨ahead, behind, split⟩ := List.append_of_mem member
    exact (ends.keepsDistance_iff (taken split) behind).mp (respaced ahead move behind split ends)
  · intro ahead move behind split ends
    have member : move ∈ moves := split ▸ List.mem_append_right _ (List.mem_cons_self ..)
    exact (ends.keepsDistance_iff (taken split) behind).mpr (none move member ends)

/-- A run that takes a request first, whose apply fails, and goes on with a regular iteration. -/
def requestedFirst (interval : Duration) : List Move × Loop :=
  (Loop.create "router1" .sample ⟨interval, .ofMillis 200, none, some 2⟩).replay
    [(0, .handleMade), (0, .send (.reconcile 1)), (0, .run), (0, .readAnswered (.ok .drifted)),
      (0, .applyAnswered (.error (.apply "mock apply failure"))),
      (0, .readAnswered (.ok .drifted)), (0, .applyAnswered (.ok Intent.sample.state))]

theorem exists_endsDrain_requestedFirst (interval : Duration) :
    ∃ move ∈ (requestedFirst interval).1, move.EndsDrain ∧ move.after.nextDelay = interval := by
  have seven : (requestedFirst interval).1.length = 7 := by rfl
  have bound : 4 < (requestedFirst interval).1.length := by rw [seven]; decide
  refine ⟨(requestedFirst interval).1.get ⟨4, bound⟩, List.get_mem .., ?_, by rfl⟩
  exact ⟨⟨1, .applyFailed, by rfl, List.mem_of_getElem? (i := 1) (by rfl)⟩, by rfl, by rfl⟩

/-- Without an interval there is no delay to keep behind the request. -/
theorem respaced_without_interval :
    (∃ move ∈ (requestedFirst .zero).1, move.EndsDrain ∧ move.beginsRegular = true) ∧
      Respaced (requestedFirst .zero).1 := by
  obtain ⟨begins, respaced⟩ := regular_iteration_behind_drained (.of_replay _ _)
  obtain ⟨move, member, ends, -⟩ := exists_endsDrain_requestedFirst .zero
  have none : ∀ move ∈ (requestedFirst .zero).1, move.after.nextDelay = .zero := by decide
  exact ⟨⟨move, member, ends, begins move member ends⟩,
    respaced.mpr fun move member _ => none move member⟩

/-- The applies among moves: when each is called for, and what its iteration was begun for. -/
def appliesAt (moves : List Move) : List (Tick × Option Cause) :=
  (moves.filter fun move => move.effects.any Effect.isApply).map fun move =>
    (move.now, move.before.point.cause?)

/--
With an interval of a second, the apply for the request and the one of the regular iteration behind
it are called for at one point in time.
-/
theorem applies_without_distance :
    let run := requestedFirst (.ofSecs 1)
    Execution (Loop.create "router1" .sample ⟨.ofSecs 1, .ofMillis 200, none, some 2⟩) run.1 run.2 ∧
      appliesAt run.1 = [(0, some (.drained 1)), (0, some .regular)] ∧ ¬ Respaced run.1 := by
  intro run
  have h : Execution (.create "router1" .sample ⟨.ofSecs 1, .ofMillis 200, none, some 2⟩) run.1
      run.2 :=
    .of_replay _ _
  refine ⟨h, by decide, fun respaced => ?_⟩
  obtain ⟨move, member, ends, delay⟩ := exists_endsDrain_requestedFirst (.ofSecs 1)
  obtain ⟨ahead, behind, split⟩ := List.append_of_mem member
  have none := (ends.keepsDistance_iff (split ▸ h).move_taken.2.1 behind).mp
    (respaced ahead move behind split ends)
  exact absurd (delay.symm.trans none) (by decide)

end ClosedLoop
