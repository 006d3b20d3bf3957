import ClosedLoop.Event
import ClosedLoop.LoopOptions
import ClosedLoop.LoopState
import ClosedLoop.Tick

/-!
# The enforcement loop

A loop owns one device. An iteration reads the state of the device, compares it with the intent and
applies the whole intent where they differ; failures are reported and never end the loop. Handles
send it messages: one asks for an iteration at once, the other for the end of the loop.

## Mechanism

The loop is a machine that is suspended at a `Point` and goes on by one `Stimulus`: an answer of the
device, a deadline, a message. One step is all the loop does until it is suspended again. It yields
the next machine and the `Effect`s on the way: reports, calls of the device and replies to those who
sent messages. The step says nothing about who provides the stimuli, so that any device, any clock
and any schedule of messages can drive it; `none` is a stimulus that cannot occur.

Messages are taken in the order of their arrival, at two places. Before a regular iteration the loop
takes all that have arrived (`Loop.turn`). In the wait it takes one at a time; a requested iteration
sets the timer anew.
-/

namespace ClosedLoop

/-- What a handle sends to a loop; a request has a number of its own. -/
inductive Message where
  | reconcile (request : Nat)
  | shutdown
  deriving DecidableEq, Repr

/-- Who an iteration is run for. -/
inductive Cause where
  /-- A direct call on a loop that is not running. -/
  | direct
  /-- The schedule. -/
  | regular
  /-- A request taken before a regular iteration. -/
  | drained (request : Nat)
  /-- A request taken in the wait. -/
  | awaited (request : Nat)
  deriving DecidableEq, Repr

/-- Where a loop is suspended. -/
inductive Point where
  /-- It is not running, and may be called directly. -/
  | idle
  /-- The device has been asked for its state. -/
  | reading (cause : Cause)
  /-- The device has been given the intent, and has until the limit to take it. -/
  | applying (cause : Cause) (limit : Tick)
  /-- It waits for the deadline or a message. -/
  | waiting (deadline : Tick)
  | stopped
  /-- It came to a point in time that the clock does not hold, and was given up. -/
  | aborted
  deriving DecidableEq, Repr

/-- What makes a loop go on. -/
inductive Stimulus where
  /-- A direct call for one iteration. -/
  | iterate
  /-- The call to run until the end. -/
  | run
  /-- The device answers a read. -/
  | readAnswered (result : Except EnforcementError OperationalState)
  /-- The device answers an apply. -/
  | applyAnswered (result : Except EnforcementError OperationalState)
  /-- The limit of the apply or the deadline of the wait has come. -/
  | timeUp
  /-- The loop looks for a message in the wait. -/
  | receive
  /-- A handle sends a message. -/
  | send (message : Message)
  /-- A handle is made, or copied from another. -/
  | handleMade
  /-- A handle is given up. -/
  | handleDropped

/-- What a step does to the world around the loop. -/
inductive Effect where
  | report (event : Event)
  /-- The device is asked for its state. -/
  | read
  /-- The device is given the intent. -/
  | apply (intent : Intent)
  /-- A direct call returns. -/
  | returned (outcome : Outcome)
  /-- A message is put into the queue. -/
  | accepted (message : Message)
  /-- A message meets a loop that has ended. -/
  | refused (message : Message)
  /-- A request is answered. -/
  | reply (request : Nat) (result : Except EnforcementError Outcome)

/-- A loop for one device. -/
structure Loop where
  /-- The name of the device. -/
  name : String
  intent : Intent
  options : LoopOptions
  state : LoopState := {}
  summary : Summary := {}
  /-- Messages that have arrived and not been taken, the oldest first. -/
  queue : List Message := []
  point : Point := .idle
  /-- Handles that others hold. -/
  handles : Nat := 0
  /-- Whether the loop holds a sender of its own, from which handles are made. -/
  keepsSender : Bool := true

namespace Loop

/-- The delay before the next regular iteration. -/
def nextDelay (l : Loop) : Duration :=
  l.options.delayAfter l.state.consecutiveFailures

/-- The bound on iterations has been reached. -/
def limitReached (l : Loop) : Bool :=
  match l.options.maxIterations with
  | some bound => bound ≤ l.state.iteration
  | none => false

/-- The loop has ended, and takes no more messages. -/
def hasEnded (l : Loop) : Bool :=
  l.point == .stopped || l.point == .aborted

/-- The answers to the requests among messages that nobody will take. -/
def unanswered (messages : List Message) : List Effect :=
  messages.filterMap fun
    | .reconcile request => some (.reply request (.error .channelClosed))
    | .shutdown => none

/-- Ends the loop; the messages left, the given ones first, remain unanswered. -/
def halt (l : Loop) (taken : List Message) : Loop × List Effect :=
  ({ l with state := l.state.stop, point := .stopped, queue := [] },
    .report (.stopped l.summary) :: unanswered (taken ++ l.queue))

/-- Begins an iteration. -/
def startIteration (l : Loop) (cause : Cause) : Loop × List Effect :=
  let state := l.state.beginIteration
  ({ l with
      state
      summary := { l.summary with iterations := l.summary.iterations + 1 }
      point := .reading cause },
    [.report (.iteration state.iteration), .read])

/-- Goes on between two iterations outside the wait: with the next message, else by schedule. -/
def turn (l : Loop) : Loop × List Effect :=
  match l.queue with
  | [] => if l.limitReached then l.halt [] else l.startIteration .regular
  | .shutdown :: rest => { l with queue := rest }.halt []
  | .reconcile request :: rest =>
    if l.limitReached then { l with queue := rest }.halt [.reconcile request]
    else { l with queue := rest }.startIteration (.drained request)

/-- Begins the wait. -/
def startWait (l : Loop) (now : Tick) : Loop × List Effect :=
  ({ l with state := l.state.startWaiting, point := .waiting (now.sleepEnd l.nextDelay) },
    [.report (.waiting l.nextDelay)])

/-- Sets the timer of the wait anew; a deadline that the clock does not hold ends the loop. -/
def rearm (l : Loop) : Option Tick → Loop × List Effect
  | some deadline =>
    ({ l with state := l.state.startWaiting, point := .waiting deadline },
      [.report (.waiting l.nextDelay)])
  | none =>
    ({ l with state := l.state.startWaiting, point := .aborted, queue := [] },
      .report (.waiting l.nextDelay) :: unanswered l.queue)

/-- Goes on with the wait after a requested iteration: the timer is set anew from now. -/
def resumeWait (l : Loop) (now : Tick) : Loop × List Effect :=
  l.rearm (now.after? l.nextDelay)

/-- Ends an iteration, and goes on for whoever it was run for. -/
def finish (l : Loop) (now : Tick) (cause : Cause) (outcome : Outcome) : Loop × List Effect :=
  let l := { l with state := l.state.finishIteration }
  match cause with
  | .direct => ({ l with point := .idle }, [.returned outcome])
  | .regular => if l.limitReached then l.halt [] else l.startWait now
  | .drained request =>
    let (next, effects) := l.turn
    (next, .reply request (.ok outcome) :: effects)
  | .awaited request =>
    let (next, effects) := if l.limitReached then l.halt [] else l.resumeWait now
    (next, .reply request (.ok outcome) :: effects)

/-- Puts an effect before those of a step. -/
def after (effect : Effect) (result : Loop × List Effect) : Loop × List Effect :=
  (result.1, effect :: result.2)

/-- The device has answered a read. -/
def observe (l : Loop) (now : Tick) (cause : Cause) :
    Except EnforcementError OperationalState → Loop × List Effect
  | .error error =>
    let l := { l with summary := { l.summary with readFailures := l.summary.readFailures + 1 } }
    after (.report (.readFailed l.state.iteration error)) (l.finish now cause .stateUnknown)
  | .ok observed =>
    if isCompliant l.intent observed then
      after (.report (.compliant l.state.iteration observed)) (l.finish now cause .compliant)
    else
      ({ l with
          state := l.state.startApplying
          point := .applying cause (now.sleepEnd l.options.applyTimeout) },
        [.report (.drift l.state.iteration (detectDrift l.intent observed)), .apply l.intent])

/-- An apply has come to its end. -/
def settle (l : Loop) (now : Tick) (cause : Cause) :
    Except EnforcementError OperationalState → Loop × List Effect
  | .ok applied =>
    let l := { l with
      state := l.state.recordSuccess
      summary := { l.summary with applies := l.summary.applies + 1 } }
    after (.report (.applied l.state.iteration applied)) (l.finish now cause .converged)
  | .error error =>
    let l := { l with
      state := l.state.recordFailure
      summary := { l.summary with applyFailures := l.summary.applyFailures + 1 } }
    after (.report (.applyFailed l.state.iteration error l.state.consecutiveFailures))
      (l.finish now cause .applyFailed)

/-- Takes a message in the wait; with no message and no sender left, the loop ends. -/
def takeMessage (l : Loop) : Option (Loop × List Effect) :=
  match l.queue with
  | [] => if l.handles = 0 && !l.keepsSender then some (l.halt []) else none
  | .shutdown :: rest => some ({ l with queue := rest }.halt [])
  | .reconcile request :: rest => some ({ l with queue := rest }.startIteration (.awaited request))

/-- A handle sends a message. -/
def send (l : Loop) (message : Message) : Loop × List Effect :=
  if l.hasEnded then (l, .refused message :: unanswered [message])
  else ({ l with queue := l.queue ++ [message] }, [.accepted message])

/-- One step of the loop at a point in time. -/
def step (l : Loop) (now : Tick) : Stimulus → Option (Loop × List Effect)
  | .iterate =>
    match l.point with
    | .idle => some (l.startIteration .direct)
    | _ => none
  | .run =>
    match l.point with
    | .idle => some (after (.report (.start l.name l.intent)) l.turn)
    | _ => none
  | .readAnswered result =>
    match l.point with
    | .reading cause => some (l.observe now cause result)
    | _ => none
  | .applyAnswered result =>
    match l.point with
    | .applying cause limit => if now ≤ limit then some (l.settle now cause result) else none
    | _ => none
  | .timeUp =>
    match l.point with
    | .applying cause limit =>
      if limit ≤ now then
        some (l.settle now cause (.error (.applyTimeout l.options.applyTimeout)))
      else none
    | .waiting deadline => if deadline ≤ now then some l.turn else none
    | _ => none
  | .receive =>
    match l.point with
    | .waiting _ => l.takeMessage
    | _ => none
  | .send message => if l.handles = 0 then none else some (l.send message)
  | .handleMade => some ({ l with handles := l.handles + 1 }, [])
  | .handleDropped => if l.handles = 0 then none else some ({ l with handles := l.handles - 1 }, [])

end Loop

end ClosedLoop
