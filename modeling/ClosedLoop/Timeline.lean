import ClosedLoop.Device
import ClosedLoop.Loop

/-!
# A loop in its time

A timeline is a loop together with its device, a clock, and a script of what others do at given
times. Time passes only when the loop and the script both have to wait, and then goes on to the next
thing that is due. An apply that ends exactly at its limit has ended in time.

More than one thing can be due at the same time: a step of the loop and an action of the script, or,
in the wait, the deadline and a message that has arrived. `proceed` does one thing after the other,
and each tie is decided by a `Choice`. `step?` decides between the loop and the script once and for
all: at one point in time the loop goes as far as it can before the script does, and all that the
script does at that time happens before the loop goes on. A message planned for the deadline of a
wait then comes behind the deadline. With `step?` a message and the deadline are therefore both
there only in a wait of no length, and it is for such waits that `messageFirst` decides.
-/

namespace ClosedLoop

/-- What others do with a loop and its device. -/
inductive Action (δ : Type) where
  | send (message : Message)
  | change (edit : δ → δ)

/-- An action and the time for it; a time in the past means at once. -/
structure Planned (δ : Type) where
  time : Tick
  action : Action δ

/-- A call of the device that has begun: when it answers, and what. -/
structure Call where
  due : Tick
  result : Except EnforcementError OperationalState

/-- A loop with its device, clock and script. -/
structure Timeline (δ : Type) where
  now : Tick := 0
  loop : Loop
  device : δ
  call : Option Call := none
  script : List (Planned δ) := []
  /-- What the steps of the loop did, the latest first, with the time. -/
  log : List (Tick × Effect) := []

namespace Timeline

variable {δ : Type} [Device δ]

/-- Carries out one effect. -/
def perform (t : Timeline δ) (effect : Effect) : Timeline δ :=
  let t := { t with log := (t.now, effect) :: t.log }
  match effect with
  | .read =>
    let (device, answer) := Device.read t.now t.device
    { t with device, call := some ⟨t.now.sleepEnd answer.delay, answer.result⟩ }
  | .apply intent =>
    let (device, answer) := Device.apply t.now t.device intent
    { t with device, call := some ⟨t.now.sleepEnd answer.delay, answer.result⟩ }
  | _ => t

/-- Gives the loop a stimulus and carries out the effects; one that cannot occur is lost. -/
def feed (t : Timeline δ) (stimulus : Stimulus) : Timeline δ :=
  match t.loop.step t.now stimulus with
  | some (loop, effects) => effects.foldl perform { t with loop }
  | none => t

/-- The call of the device answers. -/
def answer (t : Timeline δ) (call : Call) : Timeline δ :=
  match t.loop.point with
  | .applying _ _ =>
    let device :=
      match call.result with
      | .ok _ => Device.commit t.device t.loop.intent
      | .error _ => t.device
    { t with call := none, device }.feed (.applyAnswered call.result)
  | _ => { t with call := none }.feed (.readAnswered call.result)

/-- Something that makes the loop go on. -/
inductive Due where
  | answer (call : Call)
  | timeUp
  | receive

/-- What makes the loop go on next, and when. -/
def next? (messageFirst : Tick → Bool) (t : Timeline δ) : Option (Tick × Due) :=
  match t.loop.point with
  | .reading _ => t.call.map fun call => (call.due, .answer call)
  | .applying _ limit =>
    match t.call with
    | some call => if call.due ≤ limit then some (call.due, .answer call) else some (limit, .timeUp)
    | none => some (limit, .timeUp)
  | .waiting deadline =>
    if t.loop.queue.isEmpty then some (deadline, .timeUp)
    else if deadline ≤ t.now && !messageFirst t.now then some (deadline, .timeUp)
    else some (t.now, .receive)
  | _ => none

/-- Lets happen what is due. -/
def happen (t : Timeline δ) : Due → Timeline δ
  | .answer call => t.answer call
  | .timeUp => { t with call := none }.feed .timeUp
  | .receive => t.feed .receive

/-- Carries out one action. -/
def act (t : Timeline δ) : Action δ → Timeline δ
  | .send message => t.feed (.send message)
  | .change edit => { t with device := edit t.device }

/-- Carries out the first planned action and those behind it whose time has come. -/
def play (t : Timeline δ) : List (Planned δ) → Timeline δ
  | [] => { t with script := [] }
  | planned :: rest =>
    if planned.time ≤ t.now then (t.act planned.action).play rest
    else { t with script := planned :: rest }

/-- The next thing to happen, of the loop and the script the earlier one, the loop before the script. -/
def step? (messageFirst : Tick → Bool) (t : Timeline δ) : Option (Timeline δ) :=
  match t.next? messageFirst, t.script with
  | some (due, what), [] => some ({ t with now := max t.now due }.happen what)
  | some (due, what), planned :: _ =>
    if max t.now due ≤ max t.now planned.time then some ({ t with now := max t.now due }.happen what)
    else some ({ t with now := max t.now planned.time }.play t.script)
  | none, planned :: _ => some ({ t with now := max t.now planned.time }.play t.script)
  | none, [] => none

/-- What goes first where more than one thing is due at the same time. -/
structure Choice where
  /-- An action of the script goes before a step of the loop. -/
  scriptFirst : Bool
  /-- In the wait, a message that has arrived goes before the deadline. -/
  messageFirst : Bool
  deriving DecidableEq, Repr

/-- Whether the loop goes first, from the times at which it and the script are due. -/
def Choice.loopFirst (choice : Choice) (loop script : Tick) : Bool :=
  if choice.scriptFirst then loop < script else loop ≤ script

/-- Carries out the first planned action, at its time. -/
def playFirst (t : Timeline δ) (planned : Planned δ) (rest : List (Planned δ)) : Timeline δ :=
  { t with now := max t.now planned.time, script := rest }.act planned.action

/-- The next thing happens under a choice, a step of the loop or one action of the script. -/
def proceed (t : Timeline δ) (choice : Choice) : Timeline δ :=
  match t.next? fun _ => choice.messageFirst, t.script with
  | some (due, what), [] => { t with now := max t.now due }.happen what
  | some (due, what), planned :: rest =>
    if choice.loopFirst (max t.now due) (max t.now planned.time) then
      { t with now := max t.now due }.happen what
    else t.playFirst planned rest
  | none, planned :: rest => t.playFirst planned rest
  | none, [] => t

/-- The timeline behind as many things that happen as there are choices, each under its own. -/
def along (t : Timeline δ) (choices : List Choice) : Timeline δ :=
  choices.foldl proceed t

/-- Goes on until nothing is left to happen; `none` if that takes more than `fuel` steps. -/
def settle? (messageFirst : Tick → Bool) : Nat → Timeline δ → Option (Timeline δ)
  | 0, _ => none
  | fuel + 1, t =>
    match t.step? messageFirst with
    | some t => settle? messageFirst fuel t
    | none => some t

/-- A new loop for a device, with one handle, at time zero. -/
def create (device : δ) (intent : Intent) (options : LoopOptions) : Timeline δ where
  loop := { name := Device.name device, intent, options, handles := 1 }
  device

/-- One direct iteration to its end. -/
def iterate? (messageFirst : Tick → Bool) (fuel : Nat) (t : Timeline δ) : Option (Timeline δ) :=
  (t.feed .iterate).settle? messageFirst fuel

/-- A whole run under a script. -/
def run? (messageFirst : Tick → Bool) (fuel : Nat) (script : List (Planned δ)) (t : Timeline δ) :
    Option (Timeline δ) :=
  ({ t with script }.feed .run).settle? messageFirst fuel

/-- What the steps of the loop did, in order, with the time. -/
def history (t : Timeline δ) : List (Tick × Effect) :=
  t.log.reverse

/-- The events reported, in order, with the time. -/
def events (t : Timeline δ) : List (Tick × Event) :=
  t.history.filterMap fun
    | (time, .report event) => some (time, event)
    | _ => none

/-- What became of a message. -/
inductive Fate where
  | shutdown (accepted : Bool)
  | reconcile (answered : Option (Tick × Except EnforcementError Outcome))

/-- The answer to a request and its time. -/
def replyTo? (request : Nat) : List (Tick × Effect) → Option (Tick × Except EnforcementError Outcome)
  | [] => none
  | (time, .reply number result) :: rest =>
    if number = request then some (time, result) else replyTo? request rest
  | _ :: rest => replyTo? request rest

/-- Every message sent, in order, with the time it was sent and what became of it. -/
def exchanges (t : Timeline δ) : List (Tick × Fate) :=
  t.history.filterMap fun
    | (time, .accepted .shutdown) => some (time, .shutdown true)
    | (time, .refused .shutdown) => some (time, .shutdown false)
    | (time, .accepted (.reconcile request)) | (time, .refused (.reconcile request)) =>
      some (time, .reconcile (replyTo? request t.history))
    | _ => none

/-- The outcome that the last direct call returned. -/
def lastOutcome? (t : Timeline δ) : Option Outcome :=
  t.log.findSome? fun
    | (_, .returned outcome) => some outcome
    | _ => none

/-- When the loop ended. -/
def endedAt? (t : Timeline δ) : Option Tick :=
  t.log.findSome? fun
    | (time, .report (.stopped _)) => some time
    | _ => none

end Timeline

end ClosedLoop
