import ClosedLoop.Proofs.Execution
import ClosedLoop.Sample

/-!
# What handles are told

Handles send requests and shutdowns to a loop at any time, and each request is answered once. The
requests answered with an outcome are those that arrived first; each has an iteration of its own,
begun behind its arrival, and is told how that iteration was settled. All others are told that the
channel is closed.

The proof keeps a ledger of an execution (`Ledger`): the messages sent are, in order, the requests
served, the request in hand and the queue. Each step extends the ledger by what it does.

* `accounted_of_execution` — every execution from a new loop has a ledger, until the loop ends
* `requests_answered_in_order` — what handles are told by a run that has returned
-/

namespace ClosedLoop

attribute [local simp] List.filterMap_cons

/-! ## Services -/

/-- A request answered with the outcome of an iteration. -/
structure Service where
  request : Nat
  /-- The number of the iteration. -/
  number : Nat
  outcome : Outcome

/-- What the request is told. -/
def Service.reply (service : Service) : Nat × Except EnforcementError Outcome :=
  (service.request, .ok service.outcome)

/--
An iteration was begun behind the arrival of the request in place `k`, and since then no iteration
was begun or settled.
-/
def Begun (effects : List Effect) (k request number : Nat) : Prop :=
  ∃ ahead behind work,
    effects = ahead ++ .accepted (.reconcile request) ::
      (behind ++ .report (.iteration number) :: work) ∧
    (requestsIn (sentIn ahead)).length = k ∧ begunIn work = [] ∧ verdictsIn work = []

/--
The request in place `k` was answered in place `k`, at once behind the report that settles the
iteration begun for it, and with the outcome of that iteration.
-/
def Served (effects : List Effect) (k : Nat) (service : Service) : Prop :=
  ∃ before verdict rest,
    effects = before ++ .report verdict :: .reply service.request (.ok service.outcome) :: rest ∧
    Begun before k service.request service.number ∧ (repliesIn before).length = k ∧
    verdict.verdict? = some (service.number, service.outcome)

theorem Begun.append {effects : List Effect} {k request number : Nat}
    (h : Begun effects k request number) {more : List Effect} (begun : begunIn more = [])
    (settled : verdictsIn more = []) : Begun (effects ++ more) k request number := by
  obtain ⟨ahead, behind, work, rfl, hk, hb, hv⟩ := h
  refine ⟨ahead, behind, work ++ more, by simp, hk, ?_, ?_⟩
  · rw [begunIn_append, hb]
    exact begun
  · rw [verdictsIn_append, hv]
    exact settled

theorem Served.append {effects : List Effect} {k : Nat} {service : Service}
    (h : Served effects k service) (more : List Effect) : Served (effects ++ more) k service := by
  obtain ⟨before, verdict, rest, rfl, begun, hk, hv⟩ := h
  exact ⟨before, verdict, rest ++ more, by simp, begun, hk, hv⟩

/-! ## The ledger -/

/-- An effect of a loop that ends or has ended. -/
def Effect.isFinal : Effect → Bool
  | .report (.stopped _) | .refused _ => true
  | _ => false

/--
The books of a loop that goes on: the messages sent are the requests served, those in hand and the
queue, and only the requests served have been answered.
-/
structure Ledger (effects : List Effect) (queue : List Message) (iteration : Nat)
    (services : List Service) (inHand : List Nat) : Prop where
  sent : sentIn effects = (services.map Service.request ++ inHand).map .reconcile ++ queue
  replies : repliesIn effects = services.map Service.reply
  goes : ∀ effect ∈ effects, effect.isFinal = false
  served : ∀ k service, services[k]? = some service → Served effects k service
  numbers : services.Pairwise fun service later => service.number < later.number
  bound : ∀ service ∈ services, service.number + inHand.length ≤ iteration

namespace Ledger

variable {effects : List Effect} {queue rest : List Message} {iteration : Nat}
  {services : List Service} {inHand : List Nat}

theorem append (h : Ledger effects queue iteration services inHand) {more : List Effect}
    {messages : List Message} (sent : sentIn more = messages) (replies : repliesIn more = [])
    (goes : ∀ effect ∈ more, effect.isFinal = false) :
    Ledger (effects ++ more) (queue ++ messages) iteration services inHand where
  sent := by
    rw [sentIn_append, h.sent, sent, List.append_assoc]
  replies := by
    rw [repliesIn_append, h.replies, replies, List.append_nil]
  goes := by
    intro effect member
    rcases List.mem_append.mp member with earlier | later
    · exact h.goes effect earlier
    · exact goes effect later
  served := fun k service hs => (h.served k service hs).append more
  numbers := h.numbers
  bound := h.bound

/-- Effects that neither send nor answer leave the books as they are. -/
theorem append_quiet (h : Ledger effects queue iteration services inHand) {more : List Effect}
    (sent : sentIn more = []) (replies : repliesIn more = [])
    (goes : ∀ effect ∈ more, effect.isFinal = false) :
    Ledger (effects ++ more) queue iteration services inHand := by
  simpa using h.append sent replies goes

/-- An iteration that nobody has asked for. -/
theorem begin_regular (h : Ledger effects queue iteration services []) :
    Ledger (effects ++ [.report (.iteration (iteration + 1)), .read]) queue (iteration + 1)
      services [] := by
  have quiet : Ledger (effects ++ [.report (.iteration (iteration + 1)), .read]) queue iteration
      services [] := h.append_quiet rfl rfl (by simp [Effect.isFinal])
  exact { quiet with bound := fun service member => Nat.le_succ_of_le (h.bound service member) }

/-- The message behind those served has arrived somewhere in the effects. -/
theorem arrival {request : Nat}
    (h : Ledger effects (.reconcile request :: rest) iteration services []) :
    ∃ ahead behind, effects = ahead ++ .accepted (.reconcile request) :: behind ∧
      (requestsIn (sentIn ahead)).length = services.length := by
  have hsent := h.sent
  -- Behind as many messages as were served, the next one sent is the first in the queue.
  rw [List.append_nil, sentIn, List.filterMap_eq_append_iff] at hsent
  obtain ⟨front, back, rfl, hfront, hback⟩ := hsent
  obtain ⟨skipped, arrived, behind, rfl, hskipped, harrived, -⟩ :=
    List.filterMap_eq_cons_iff.mp hback
  have haccepted : arrived = .accepted (.reconcile request) := by
    have hgoes := h.goes arrived (by simp)
    cases arrived with
    | accepted message => cases harrived; rfl
    | refused message => simp [Effect.isFinal] at hgoes
    | _ => cases harrived
  subst haccepted
  refine ⟨front ++ skipped, behind, by simp, ?_⟩
  have hserved : sentIn front = (services.map Service.request).map .reconcile := hfront
  have hquiet : sentIn skipped = [] := List.filterMap_eq_nil_iff.mpr hskipped
  rw [sentIn_append, hserved, hquiet, List.append_nil, requestsIn_reconcile, List.length_map]

/-- The next request is taken, and an iteration begun for it. -/
theorem take {request : Nat}
    (h : Ledger effects (.reconcile request :: rest) iteration services []) :
    Ledger (effects ++ [.report (.iteration (iteration + 1)), .read]) rest (iteration + 1)
        services [request] ∧
      Begun (effects ++ [.report (.iteration (iteration + 1)), .read]) services.length request
        (iteration + 1) := by
  have begun := h.begin_regular
  constructor
  · exact {
      sent := by rw [begun.sent]; simp
      replies := begun.replies
      goes := begun.goes
      served := begun.served
      numbers := begun.numbers
      bound := fun service member => Nat.succ_le_succ (h.bound service member) }
  · obtain ⟨ahead, behind, rfl, hk⟩ := h.arrival
    exact ⟨ahead, behind, [.read], by simp, hk, rfl, rfl⟩

/-- The request in hand is answered with the outcome of its iteration. -/
theorem serve {request : Nat} {verdict : Event} {outcome : Outcome}
    (h : Ledger effects queue iteration services [request])
    (begun : Begun effects services.length request iteration)
    (settled : verdict.verdict? = some (iteration, outcome)) :
    Ledger (effects ++ [.report verdict, .reply request (.ok outcome)]) queue iteration
      (services ++ [⟨request, iteration, outcome⟩]) [] where
  sent := by
    rw [sentIn_append, h.sent]
    simp
  replies := by
    rw [repliesIn_append, h.replies]
    simp [Service.reply]
  goes := by
    intro effect member
    rcases List.mem_append.mp member with earlier | later
    · exact h.goes effect earlier
    · have hverdict : (Effect.report verdict).isFinal = false := by
        cases verdict <;> first | rfl | cases settled
      simp only [List.mem_cons, List.not_mem_nil, or_false] at later
      rcases later with rfl | rfl
      · exact hverdict
      · rfl
  served := by
    intro k service hs
    -- The services there were stay as they are, and the new one is the last.
    rcases Nat.lt_or_ge k services.length with hk | hk
    · rw [List.getElem?_append_left hk] at hs
      exact (h.served k service hs).append _
    · rw [List.getElem?_append_right hk, List.getElem?_singleton] at hs
      split at hs
      · next hzero =>
        cases hs
        have hk : k = services.length := by omega
        subst hk
        refine ⟨effects, verdict, [], rfl, begun, ?_, settled⟩
        rw [h.replies, List.length_map]
      · cases hs
  numbers := by
    refine List.pairwise_append.mpr ⟨h.numbers, List.pairwise_singleton _ _, ?_⟩
    intro service member later hlater
    cases List.mem_singleton.mp hlater
    exact h.bound service member
  bound := by
    intro service member
    rcases List.mem_append.mp member with earlier | last
    · exact Nat.le_of_succ_le (h.bound service earlier)
    · cases List.mem_singleton.mp last
      exact Nat.le_refl _

end Ledger

/-! ## Loops with their books -/

/-- A loop that goes on has its books in order. -/
structure Open (effects : List Effect) (l : Loop) (services : List Service) : Prop where
  ledger : Ledger effects l.queue l.state.iteration services l.point.request?.toList
  begun : ∀ request, l.point.request? = some request →
    Begun effects services.length request l.state.iteration
  goes : l.hasEnded = false

/-- A loop that has stopped has closed its books: all that is left was told so. -/
structure Closed (effects : List Effect) (l : Loop) (services : List Service)
    (left : List Message) : Prop where
  stopped : l.point = .stopped
  returned : ∃ summary, .report (.stopped summary) ∈ effects
  sent : sentIn effects = (services.map Service.request).map .reconcile ++ left
  replies : repliesIn effects =
    services.map Service.reply ++
      (requestsIn left).map fun request => (request, .error .channelClosed)
  served : ∀ k service, services[k]? = some service → Served effects k service
  numbers : services.Pairwise fun service later => service.number < later.number
  why : left.head? = some .shutdown ∨ l.limitReached = true

/-- A loop whose effects are accounted for, unless it was given up. -/
inductive Accounted (effects : List Effect) (l : Loop) : Prop where
  | goes {services : List Service} (books : Open effects l services)
  | stopped {services : List Service} {left : List Message} (books : Closed effects l services left)
  | aborted (at_ : l.point = .aborted)

section

variable {effects : List Effect} {l : Loop} {now : Tick} {services : List Service}

/-- A loop without a request in hand goes on with its books in order. -/
theorem open_of_quiet {l' : Loop} (ledger : Ledger effects l'.queue l'.state.iteration services [])
    (free : l'.point.request? = none) (goes : l'.hasEnded = false) : Open effects l' services where
  ledger := by rw [free]; exact ledger
  begun := fun request busy => by rw [free] at busy; cases busy
  goes := goes

theorem accounted_halt (ledger : Ledger effects l.queue l.state.iteration services [])
    (why : l.queue.head? = some .shutdown ∨ l.limitReached = true) :
    Accounted (effects ++ (l.halt []).2) (l.halt []).1 := by
  have books : Closed (effects ++ (l.halt []).2) (l.halt []).1 services l.queue := by
    refine {
      stopped := rfl
      returned := ⟨l.summary, by simp [Loop.halt]⟩
      sent := ?_
      replies := ?_
      served := fun k service hs => (ledger.served k service hs).append _
      numbers := ledger.numbers
      why := why }
    · rw [sentIn_append, ledger.sent]
      simp [Loop.halt]
    · rw [repliesIn_append, ledger.replies]
      simp [Loop.halt]
  exact .stopped books

theorem accounted_take {request : Nat} {rest : List Message} {cause : Cause}
    (ledger : Ledger effects l.queue l.state.iteration services [])
    (queued : l.queue = .reconcile request :: rest) (for_ : cause.request? = some request) :
    Accounted (effects ++ ({ l with queue := rest }.startIteration cause).2)
      ({ l with queue := rest }.startIteration cause).1 := by
  rw [queued] at ledger
  obtain ⟨taken, begun⟩ := ledger.take
  have point : (Point.reading cause).request? = some request := for_
  have books : Open (effects ++ ({ l with queue := rest }.startIteration cause).2)
      ({ l with queue := rest }.startIteration cause).1 services := by
    refine ⟨?_, ?_, rfl⟩
    · show Ledger _ rest (l.state.iteration + 1) services (Point.reading cause).request?.toList
      rw [point]
      exact taken
    · intro other busy
      have same : some request = some other := point.symm.trans busy
      cases same
      exact begun
  exact .goes books

theorem accounted_of_continues {behind : Option Cause} {result : Loop × List Effect}
    (h : l.Continues now behind result)
    (ledger : Ledger effects l.queue l.state.iteration services []) :
    Accounted (effects ++ result.2) result.1 := by
  cases h with
  | halt why => exact accounted_halt ledger why
  | regular empty below => exact .goes (open_of_quiet ledger.begin_regular rfl rfl)
  | drained queued below => exact accounted_take ledger queued rfl
  | wait below =>
    exact .goes (open_of_quiet
      (ledger.append_quiet rfl rfl (by simp [Loop.startWait, Effect.isFinal])) rfl rfl)
  | resume below held =>
    exact .goes (open_of_quiet (ledger.append_quiet rfl rfl (by simp [Effect.isFinal])) rfl rfl)
  | abort below beyond => exact .aborted rfl

theorem isFinal_of_mem_answer {cause : Cause} {outcome : Outcome} :
    ∀ effect ∈ cause.answer outcome, effect.isFinal = false := by
  cases cause <;> simp [Cause.answer, Effect.isFinal]

/-- The end of an iteration answers the request in hand, if there is one. -/
theorem ledger_of_verdict {cause : Cause} {verdict : Event} {outcome : Outcome}
    (books : Open effects l services) (busy : l.point.cause? = some cause)
    (settled : verdict.verdict? = some (l.state.iteration, outcome)) :
    ∃ services, Ledger (effects ++ .report verdict :: cause.answer outcome) l.queue
      l.state.iteration services [] := by
  have request : l.point.request? = cause.request? := by
    simp [Point.request?, busy]
  have ledger := books.ledger
  have quiet : (Effect.report verdict).isFinal = false := by
    cases verdict <;> first | rfl | cases settled
  rw [request] at ledger
  cases cause with
  | direct =>
    exact ⟨services, ledger.append_quiet rfl rfl
      (List.forall_mem_cons.mpr ⟨quiet, isFinal_of_mem_answer⟩)⟩
  | regular =>
    exact ⟨services, ledger.append_quiet rfl rfl
      (List.forall_mem_cons.mpr ⟨quiet, isFinal_of_mem_answer⟩)⟩
  | drained request' => exact ⟨_, ledger.serve (books.begun request' request) settled⟩
  | awaited request' => exact ⟨_, ledger.serve (books.begun request' request) settled⟩

theorem accounted_conclude {cause : Cause} {verdict : Verdict} (books : Open effects l services)
    (busy : l.point.cause? = some cause) :
    Accounted (effects ++ (l.conclude now cause verdict).2) (l.conclude now cause verdict).1 := by
  let report := verdict.event l.state.iteration (l.judged verdict).state.consecutiveFailures
  obtain ⟨services', ledger⟩ :=
    ledger_of_verdict books busy (show report.verdict? = _ from verdict.verdict?_event _ _)
  have after : Ledger (effects ++ .report report :: cause.answer verdict.outcome)
      (l.judged verdict).queue (l.judged verdict).state.iteration services' [] := by
    rw [Loop.judged_queue, Loop.judged_iteration]
    exact ledger
  have told : effects ++ (l.conclude now cause verdict).2 =
      (effects ++ .report report :: cause.answer verdict.outcome) ++
        ((l.judged verdict).goOn now cause).2 := by
    simp [Loop.conclude, report]
  rw [told]
  by_cases h : cause = .direct
  · subst h
    exact .goes (open_of_quiet (after.append_quiet rfl rfl (by simp [Loop.goOn])) rfl rfl)
  · exact accounted_of_continues (Loop.continues_goOn h) after

/-- Beginning to apply keeps the request in hand. -/
theorem Open.drift {cause : Cause} {observed : OperationalState} {limit : Tick}
    (books : Open effects l services) (reading : l.point = .reading cause) :
    Open (effects ++
        [.report (.drift l.state.iteration (detectDrift l.intent observed)), .apply l.intent])
      { l with state := l.state.startApplying, point := .applying cause limit } services := by
  have ledger := books.ledger
  have begun := books.begun
  rw [reading] at ledger begun
  exact ⟨ledger.append_quiet rfl rfl (by simp [Effect.isFinal]),
    fun request busy => (begun request busy).append rfl rfl, rfl⟩

theorem Open.accept {message : Message} (books : Open effects l services) :
    Open (effects ++ [.accepted message]) { l with queue := l.queue ++ [message] } services :=
  ⟨books.ledger.append rfl rfl (by simp [Effect.isFinal]),
    fun request busy => (books.begun request busy).append rfl rfl, books.goes⟩

theorem Open.setHandles (books : Open effects l services) (handles : Nat) :
    Open (effects ++ []) { l with handles } services := by
  rw [List.append_nil]
  exact ⟨books.ledger, books.begun, books.goes⟩

/-- A step keeps the books in order. -/
theorem accounted_of_transition {stimulus : Stimulus} {result : Loop × List Effect}
    (h : l.Transition now stimulus result) (owned : l.keepsSender = true)
    (books : Open effects l services) : Accounted (effects ++ result.2) result.1 := by
  have ledger := books.ledger
  cases h with
  | iterate idle =>
    rw [idle] at ledger
    exact .goes (open_of_quiet ledger.begin_regular rfl rfl)
  | run idle =>
    rw [idle] at ledger
    have opened : Ledger (effects ++ [.report (.start l.name l.intent)]) l.queue l.state.iteration
        services [] := ledger.append_quiet rfl rfl (by simp [Effect.isFinal])
    simpa [Loop.after] using accounted_of_continues (l.continues_turn now none) opened
  | drift reading differs => exact .goes (books.drift reading)
  | conclude judges => exact accounted_conclude books judges.cause?_point
  | ring waiting due =>
    rw [waiting] at ledger
    exact accounted_of_continues (l.continues_turn now none) ledger
  | desert waiting empty alone => rw [alone] at owned; cases owned
  | takeShutdown waiting queued =>
    rw [waiting] at ledger
    exact accounted_halt ledger (.inl (by rw [queued]; rfl))
  | takeRequest waiting queued =>
    rw [waiting] at ledger
    exact accounted_take ledger queued rfl
  | refuse ended =>
    have goes := books.goes
    rw [goes] at ended
    cases ended
  | accept goes => exact .goes books.accept
  | handleMade => exact .goes (books.setHandles _)
  | handleDropped => exact .goes (books.setHandles _)

/-- What comes behind the end is refused, and changes nothing that was booked. -/
theorem Closed.of_transition {stimulus : Stimulus} {result : Loop × List Effect}
    {left : List Message} (books : Closed effects l services left)
    (h : l.Transition now stimulus result) :
    ∃ left, Closed (effects ++ result.2) result.1 services left := by
  have ended : l.hasEnded = true := Loop.hasEnded_iff.mpr (.inl books.stopped)
  obtain ⟨point, queue, state, summary, told⟩ := h.of_ended ended
  have limit : result.1.limitReached = l.limitReached := by
    unfold Loop.limitReached
    rw [h.sameSetup.options, state]
  obtain ⟨last, returned⟩ := books.returned
  have served := fun k service hs => (books.served k service hs).append result.2
  rcases told with quiet | ⟨message, rfl, refused⟩
  · refine ⟨left, {
      stopped := point.trans books.stopped
      returned := ⟨last, List.mem_append_left _ returned⟩
      sent := ?_
      replies := ?_
      served := served
      numbers := books.numbers
      why := by rw [limit]; exact books.why }⟩
    · rw [quiet, List.append_nil]
      exact books.sent
    · rw [quiet, List.append_nil]
      exact books.replies
  · refine ⟨left ++ [message], {
      stopped := point.trans books.stopped
      returned := ⟨last, List.mem_append_left _ returned⟩
      sent := ?_
      replies := ?_
      served := served
      numbers := books.numbers
      why := ?_ }⟩
    · rw [refused, sentIn_append, books.sent]
      simp
    · rw [refused, repliesIn_append, books.replies]
      simp
    · rw [limit]
      rcases books.why with first | reached
      · left
        cases left with
        | nil => cases first
        | cons head tail => exact first
      · exact .inr reached

end

/-- Every execution from a new loop is accounted for. -/
theorem accounted_of_execution {name : String} {intent : Intent} {options : LoopOptions}
    {moves : List Move} {l : Loop} (h : Execution (Loop.create name intent options) moves l) :
    Accounted (effectsOf moves) l := by
  induction h with
  | start =>
    have ledger : Ledger [] [] 0 [] [] := ⟨rfl, rfl, by simp, by simp, .nil, by simp⟩
    exact .goes (open_of_quiet ledger rfl rfl)
  | @step moves l₁ l₂ now stimulus effects earlier taken ih =>
    have transition := Loop.transition_of_step taken
    rw [effectsOf_append, effectsOf_singleton]
    cases ih with
    | goes books => exact accounted_of_transition transition earlier.sameSetup.keepsSender books
    | stopped books =>
      obtain ⟨left, books⟩ := books.of_transition transition
      exact .stopped books
    | aborted at_ =>
      have ended : l₁.hasEnded = true := Loop.hasEnded_iff.mpr (.inr at_)
      exact .aborted ((transition.of_ended ended).1.trans at_)

/-! ## What handles are told -/

/-- The loop has told that it has stopped. -/
def ReturnedIn (effects : List Effect) : Prop :=
  ∃ summary, .report (.stopped summary) ∈ effects

/-- Before the first shutdown, requests are left over only where the limit was reached. -/
theorem Closed.limitReached {effects : List Effect} {l : Loop} {services : List Service}
    {left ahead behind : List Message} {request : Nat} (books : Closed effects l services left)
    (sent : sentIn effects = ahead ++ .reconcile request :: behind) (first : .shutdown ∉ ahead)
    (unserved : services.length ≤ ahead.length) : l.limitReached = true := by
  rcases books.why with ends | reached
  · exfalso
    have here : (sentIn effects)[services.length]? = some .shutdown := by
      rw [books.sent, List.getElem?_append_right (by simp), List.length_map, List.length_map,
        Nat.sub_self, ← List.head?_eq_getElem?]
      exact ends
    rw [sent] at here
    rcases Nat.lt_or_eq_of_le unserved with inside | edge
    · rw [List.getElem?_append_left inside] at here
      exact first (List.mem_of_getElem? here)
    · rw [edge, List.getElem?_append_right (Nat.le_refl _), Nat.sub_self] at here
      cases here
  · exact reached

/-- A shutdown is accepted until the loop has told that it has stopped, and refused from then on. -/
theorem shutdown_accepted_iff {name : String} {intent : Intent} {options : LoopOptions}
    {before behind : List Move} {move : Move} {l : Loop}
    (h : Execution (Loop.create name intent options) (before ++ move :: behind) l)
    (returned : l.point = .stopped) (sends : move.stimulus = .send .shutdown) :
    (¬ReturnedIn (effectsOf before) ∧ move.effects = [.accepted .shutdown]) ∨
      (ReturnedIn (effectsOf before) ∧ move.effects = [.refused .shutdown]) := by
  obtain ⟨earlier, taken, later⟩ := h.move_taken
  rw [sends] at taken
  have transition := Loop.transition_of_step taken
  cases accounted_of_execution earlier with
  | goes books =>
    left
    refine ⟨fun ⟨summary, told⟩ => ?_, ?_⟩
    · have goes := books.ledger.goes _ told
      cases goes
    · generalize hresult : (move.after, move.effects) = result at transition
      cases transition with
      | conclude judges => cases judges
      | refuse ended =>
        rw [books.goes] at ended
        cases ended
      | accept goes => exact congrArg Prod.snd hresult
  | stopped books =>
    right
    refine ⟨books.returned, ?_⟩
    generalize hresult : (move.after, move.effects) = result at transition
    cases transition with
    | conclude judges => cases judges
    | refuse ended => exact congrArg Prod.snd hresult
    | accept goes =>
      have ended := Loop.hasEnded_iff.mpr (.inl books.stopped)
      rw [goes] at ended
      cases ended
  | aborted at_ =>
    exfalso
    have ended : move.before.hasEnded = true := Loop.hasEnded_iff.mpr (.inr at_)
    have same := (transition.of_ended ended).1
    have ended' : move.after.hasEnded = true := (Loop.hasEnded_congr same).trans ended
    have last := (later.of_ended ended').1
    rw [last, same, at_] at returned
    cases returned

/--
Once a run has returned, each request sent to the loop, before the run, during it or later, has been
answered once, in the order of arrival. Those served are the first; each was told the outcome of an
iteration of its own, begun behind its arrival. The others were told that the channel is closed;
among them is one that arrived before the first shutdown only if the limit was reached. A shutdown
is accepted exactly until the run has returned.
-/
theorem requests_answered_in_order {name : String} {intent : Intent} {options : LoopOptions}
    {moves : List Move} {l : Loop} (h : Execution (Loop.create name intent options) moves l)
    (returned : l.point = .stopped) :
    begunIn (effectsOf moves) = List.range' 1 l.state.iteration ∧
    (∃ (services : List Service) (dropped : List Nat),
      requestsIn (messagesOf moves) = services.map Service.request ++ dropped ∧
      repliesIn (effectsOf moves) = services.map Service.reply ++
        dropped.map (fun request => (request, .error .channelClosed)) ∧
      services.Pairwise (fun service later => service.number < later.number) ∧
      (∀ k service, services[k]? = some service → Served (effectsOf moves) k service) ∧
      (∀ ahead request behind, messagesOf moves = ahead ++ .reconcile request :: behind →
        .shutdown ∉ ahead → services.length ≤ ahead.length → l.limitReached = true)) ∧
    (∀ before move behind, moves = before ++ move :: behind →
      move.stimulus = .send .shutdown →
        (¬ReturnedIn (effectsOf before) ∧ move.effects = [.accepted .shutdown]) ∨
          (ReturnedIn (effectsOf before) ∧ move.effects = [.refused .shutdown])) := by
  refine ⟨?_, ?_, ?_⟩
  · obtain ⟨count, hcount, begun⟩ := h.begun_eq
    rw [begun, hcount]
    simp [Loop.create]
  · cases accounted_of_execution h with
    | goes books =>
      have ended := Loop.hasEnded_iff.mpr (.inl returned)
      rw [books.goes] at ended
      cases ended
    | @stopped services left books =>
      refine ⟨services, requestsIn left, ?_, books.replies, books.numbers, books.served, ?_⟩
      · rw [← h.sentIn_effectsOf, books.sent, requestsIn_append, requestsIn_reconcile]
      · intro ahead request behind sent
        rw [← h.sentIn_effectsOf] at sent
        exact books.limitReached sent
    | aborted at_ =>
      rw [at_] at returned
      cases returned
  · rintro before move behind rfl sends
    exact shutdown_accepted_iff h returned sends

/-- A request from before the run is served though a shutdown comes behind it; the next one is not. -/
theorem requests_answered_around_shutdown :
    let run := (Loop.create "router1" .sample .standard).replay
      [(0, .handleMade), (0, .send (.reconcile 7)), (0, .run), (0, .send .shutdown),
        (0, .send (.reconcile 8)), (0, .readAnswered (.ok .drifted)),
        (2, .applyAnswered (.ok Intent.sample.state)), (5, .send .shutdown)]
    run.2.point = .stopped ∧
      repliesIn (effectsOf run.1) = [(7, .ok .converged), (8, .error .channelClosed)] ∧
      ∃ (services : List Service) (dropped : List Nat),
        requestsIn (messagesOf run.1) = services.map Service.request ++ dropped ∧
        repliesIn (effectsOf run.1) = services.map Service.reply ++
          dropped.map (fun request => (request, .error .channelClosed)) := by
  intro run
  have stopped : run.2.point = .stopped := by rfl
  obtain ⟨-, ⟨services, dropped, sent, replied, -⟩, -⟩ :=
    requests_answered_in_order (.of_replay _ _) stopped
  exact ⟨stopped, by rfl, services, dropped, sent, replied⟩

end ClosedLoop
