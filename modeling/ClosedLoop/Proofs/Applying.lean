import ClosedLoop.Proofs.Life
import ClosedLoop.Sample

/-!
# How an apply ends

An apply on the bench ends as it was settled when it began: refused at once, taken behind its delay,
or given up at its limit. What others do in the meantime, to the loop or to the device, has no part
in it. It writes at its end and only if it is taken, so one that fails never writes: whatever is
written behind it by the loop is written by an apply that begins later.

* `BenchDevice.applyEnd` — the end of an apply, by what the device is set to when it begins
* `OpenApply`, `Paid` — each write of the loop falls into the time of an apply of its own
* `Pends`, `Course` — an apply is still on, or has come to its end; every life is one of the two
* `apply_ends_as_begun` — the end, its time and its writes
-/

namespace ClosedLoop

open Timeline (Due)

/-! ## Ends -/

/-- How long a sleep of this length lasts: whole milliseconds, and no longer than thirty years. -/
def Duration.slept (delay : Duration) : Nat :=
  min (ceilMillis delay.nanos) Tick.farFuture

theorem Tick.sleepEnd_eq_add (now : Tick) (delay : Duration) :
    now.sleepEnd delay = now + delay.slept := rfl

/-- How an apply ends: when, and by which verdict. -/
structure ApplyEnd where
  time : Tick
  verdict : Verdict

/-- The end of an apply that begins now, by what the device is set to now. -/
def BenchDevice.applyEnd (d : BenchDevice) (intent : Intent) (timeout : Duration) (now : Tick) :
    ApplyEnd :=
  if 0 < d.failingApplies then ⟨now, .failed (.apply "mock apply failure")⟩
  else if d.applyDelay.slept ≤ timeout.slept then
    ⟨now + d.applyDelay.slept, .applied intent.state⟩
  else ⟨now + timeout.slept, .failed (.applyTimeout timeout)⟩

/-- The verdict on an apply that its device has answered. -/
def Verdict.ofResult : Except EnforcementError OperationalState → Verdict
  | .ok state => .applied state
  | .error error => .failed error

/-- The end of an apply with this call: by the answer, which goes first at a tie, or by the limit. -/
def Call.applyEnd (call : Call) (limit : Tick) (timeout : Duration) : ApplyEnd :=
  if call.due ≤ limit then ⟨call.due, .ofResult call.result⟩
  else ⟨limit, .failed (.applyTimeout timeout)⟩

/-- What a verdict on an apply comes with: one that is taken has been written. -/
def Verdict.writes : Verdict → List Note
  | .applied _ => [.wrote .committed]
  | _ => []

/-! ## Applies in notes -/

namespace Note

/-- An apply begins. -/
@[simp] def isApply : Note → Bool
  | did effect => effect.isApply
  | _ => false

/-- An iteration is settled. -/
@[simp] def isVerdict : Note → Bool
  | did effect => effect.verdict?.isSome
  | _ => false

/-- No part of an apply: it begins none, settles none and is written by none. -/
def isBeside (note : Note) : Bool :=
  !(note.isApply || note.isVerdict || note.isCommit)

theorem isBeside_did {effect : Effect} (quiet : effect.isIdle = true) :
    (did effect).isBeside = true := by
  show (!(effect.isApply || effect.verdict?.isSome || false)) = true
  rw [(Effect.of_isIdle quiet).2.1, (Effect.not_call_of_isIdle quiet).2.2]
  rfl

theorem isCommit_of_isBeside {note : Note} (beside : note.isBeside = true) :
    note.isCommit = false := by
  simp only [isBeside, Bool.not_eq_true', Bool.or_eq_false_iff] at beside
  exact beside.2

end Note

/-- An apply has begun that has neither written nor been settled. -/
def OpenApply (notes : List Note) : Prop :=
  ∃ ahead intent middle, notes = ahead ++ .did (.apply intent) :: middle ∧
    ∀ note ∈ middle, note.isBeside = true

/-- Each write of the loop comes where an apply is open. -/
def Paid : List Note → Prop :=
  Throughout fun ahead note => note.isCommit = true → OpenApply ahead

theorem OpenApply.append {notes more : List Note} (h : OpenApply notes)
    (beside : ∀ note ∈ more, note.isBeside = true) : OpenApply (notes ++ more) := by
  obtain ⟨ahead, intent, middle, rfl, quiet⟩ := h
  refine ⟨ahead, intent, middle ++ more, by simp, ?_⟩
  intro note member
  rcases List.mem_append.mp member with earlier | later
  · exact quiet note earlier
  · exact beside note later

theorem OpenApply.of_append {notes more : List Note} (h : OpenApply more) :
    OpenApply (notes ++ more) := by
  obtain ⟨ahead, intent, middle, rfl, quiet⟩ := h
  exact ⟨notes ++ ahead, intent, middle, by simp, quiet⟩

theorem Paid.append {notes more : List Note} (h : Paid notes)
    (uncommitted : ∀ note ∈ more, note.isCommit = false) : Paid (notes ++ more) := by
  refine Throughout.append h ?_
  rintro ahead note behind rfl committed
  rw [uncommitted note (by simp)] at committed
  cases committed

theorem Paid.append_commit {notes : List Note} (h : Paid notes) (opened : OpenApply notes) :
    Paid (notes ++ [.wrote .committed]) := by
  refine Throughout.append h ?_
  intro ahead note behind cut committed
  cases ahead with
  | nil => rwa [List.append_nil]
  | cons first rest => simp at cut

theorem isCommit_of_mem_noted {effects : List Effect} :
    ∀ note ∈ noted effects, note.isCommit = false :=
  forall_mem_noted fun _ _ => rfl

/-- Where no apply begins the loop writes nothing, if its writes are paid for. -/
theorem Paid.countP_isCommit {notes : List Note} (h : Paid notes)
    (none : notes.countP Note.isApply = 0) : notes.countP Note.isCommit = 0 := by
  rw [List.countP_eq_zero] at none ⊢
  intro note member committed
  obtain ⟨ahead, behind, rfl⟩ := List.append_of_mem member
  obtain ⟨first, intent, middle, rfl, -⟩ := h ahead note behind rfl committed
  exact none (.did (.apply intent)) (by simp) rfl

/-- Behind an apply, and until another one begins, the loop has written what the verdict says. -/
theorem Paid.countP_isCommit_eq {ahead behind : List Note} {verdict : Verdict} {event : Event}
    (h : Paid behind) (beside : ∀ note ∈ ahead, note.isBeside = true)
    (none : behind.countP Note.isApply = 0) :
    (ahead ++ (verdict.writes ++ .did (.report event) :: behind)).countP Note.isCommit =
      verdict.writes.length := by
  have before : ahead.countP Note.isCommit = 0 := by
    refine List.countP_eq_zero.mpr fun note member committed => ?_
    rw [Note.isCommit_of_isBeside (beside note member)] at committed
    cases committed
  have own : verdict.writes.countP Note.isCommit = verdict.writes.length := by
    cases verdict <;> rfl
  rw [List.countP_append, List.countP_append, List.countP_cons, before, own,
    h.countP_isCommit none]
  simp

/-! ## What notes say of the device -/

/-- A device becomes another by what is noted: its latest write, and the applies that begin. -/
structure BenchDevice.Undergoes (intent : Intent) (d : BenchDevice) (notes : List Note)
    (d' : BenchDevice) : Prop where
  state : d'.state = (latestWrite notes).elim d.state (Write.state intent)
  calls : d'.applyCalls = d.applyCalls + notes.countP Note.isApply

theorem latestWrite_append_eq_or (notes more : List Note) :
    latestWrite (notes ++ more) = (latestWrite more).or (latestWrite notes) := by
  rw [latestWrite, List.filterMap_append, List.getLast?_append]
  rfl

namespace BenchDevice.Undergoes

variable {intent : Intent} {d d' d'' : BenchDevice} {notes more : List Note}

theorem still (state : d'.state = d.state) (calls : d'.applyCalls = d.applyCalls) :
    Undergoes intent d [] d' :=
  ⟨state, calls⟩

theorem append (h : Undergoes intent d notes d') (h' : Undergoes intent d' more d'') :
    Undergoes intent d (notes ++ more) d'' where
  state := by
    rw [h'.state, h.state, latestWrite_append_eq_or]
    cases latestWrite more <;> rfl
  calls := by
    rw [h'.calls, h.calls, List.countP_append, Nat.add_assoc]

theorem of_set (setting : Setting) : Undergoes intent d setting.notes (d.set setting) := by
  cases setting <;> exact ⟨rfl, rfl⟩

theorem of_read : Undergoes intent d [.did .read] d.read.1 := by
  cases fails : d.failingReads <;> simp only [read, fails] <;> exact ⟨rfl, rfl⟩

theorem of_startApply (given : Intent) :
    Undergoes intent d [.did (.apply given)] (d.startApply given).1 := by
  cases fails : d.failingApplies <;> simp only [startApply, fails] <;> exact ⟨rfl, rfl⟩

theorem of_perform (t : Timeline BenchDevice) (effect : Effect) :
    Undergoes intent t.device [.did effect] (t.perform effect).device := by
  cases effect with
  | read => exact of_read
  | apply given => exact of_startApply given
  | _ => exact ⟨rfl, rfl⟩

theorem of_performAll (t : Timeline BenchDevice) (effects : List Effect) :
    Undergoes intent t.device (noted effects) (t.performAll effects).device := by
  induction effects generalizing t with
  | nil => exact still rfl rfl
  | cons effect effects ih => exact (of_perform t effect).append (ih (t.perform effect))

theorem of_feed (t : Timeline BenchDevice) (stimulus : Stimulus) :
    Undergoes intent t.device (noted (t.since (t.feed stimulus))) (t.feed stimulus).device := by
  rcases t.feed_cases stimulus with same | ⟨loop, effects, -, fed⟩
  · rw [same, Timeline.since_self]
    exact still rfl rfl
  · rw [fed, Timeline.since_performAll]
    exact of_performAll { t with loop } effects

theorem of_answer (t : Timeline BenchDevice) (call : Call) :
    Undergoes t.loop.intent t.device
      ((Due.answer call).notes t.loop.point ++ noted (t.since (t.answer call)))
      (t.answer call).device := by
  obtain ⟨due, result⟩ := call
  unfold Timeline.answer
  split
  · next cause limit applying =>
    rw [applying]
    cases result with
    | ok state =>
      have written : Undergoes t.loop.intent t.device [.wrote .committed]
          (Device.commit t.device t.loop.intent) := ⟨rfl, rfl⟩
      exact written.append
        (of_feed { t with call := none, device := Device.commit t.device t.loop.intent } _)
    | error error => exact of_feed { t with call := none } _
  · next free =>
    have answered : Undergoes t.loop.intent t.device
        ((Due.answer ⟨due, result⟩).notes t.loop.point) t.device := by
      cases point : t.loop.point with
      | applying cause limit => exact absurd point (free cause limit)
      | _ => exact ⟨rfl, rfl⟩
    exact answered.append (of_feed { t with call := none } _)

theorem of_happen (t : Timeline BenchDevice) (what : Due) :
    Undergoes t.loop.intent t.device
      (what.notes t.loop.point ++ noted (t.since (t.happen what))) (t.happen what).device := by
  cases what with
  | answer call => exact of_answer t call
  | timeUp => exact of_feed { t with call := none } .timeUp
  | receive => exact of_feed t .receive

end BenchDevice.Undergoes

theorem Timeline.sameSetup_happen (t : Timeline BenchDevice) (what : Due) :
    Loop.SameSetup t.loop (t.happen what).loop := by
  cases what with
  | answer call =>
    show Loop.SameSetup t.loop (t.answer call).loop
    unfold answer
    split
    · exact sameSetup_feed (t := { t with call := none, device := _ }) _
    · exact sameSetup_feed (t := { t with call := none }) _
  | timeUp => exact sameSetup_feed (t := { t with call := none }) _
  | receive => exact sameSetup_feed _

/-- In every life the device becomes what the notes say. -/
theorem Life.undergoes {t v : Timeline BenchDevice} {notes : List Note} (h : Life t notes v) :
    Loop.SameSetup t.loop v.loop ∧ t.device.Undergoes t.loop.intent notes v.device := by
  induction h with
  | start => exact ⟨.refl _, .still rfl rfl⟩
  | plan earlier script ih => exact ih
  | pass earlier now forward inTime ih => exact ih
  | feed earlier stimulus outside ih =>
    exact ⟨ih.1.trans (Timeline.sameSetup_feed stimulus), ih.2.append (.of_feed _ stimulus)⟩
  | change earlier setting ih => exact ⟨ih.1, ih.2.append (.of_set setting)⟩
  | @happen notes u earlier messageFirst due what next ih =>
    have happened := BenchDevice.Undergoes.of_happen { u with now := max u.now due } what
    refine ⟨ih.1.trans (Timeline.sameSetup_happen { u with now := max u.now due } what), ?_⟩
    rw [ih.1.intent] at happened
    exact ih.2.append happened

/-! ## Writes of the loop -/

namespace Loop

variable {l : Loop} {now limit : Tick} {cause cause' : Cause} {result : Loop × List Effect}

theorem Proceeds.ne_applying (h : l.Proceeds result) : result.1.point ≠ .applying cause limit := by
  intro applying
  cases h with
  | rests same free =>
    rw [applying] at free
    cases free
  | begins => cases applying

theorem conclude_ne_applying {verdict : Verdict} :
    (l.conclude now cause' verdict).1.point ≠ .applying cause limit := by
  rw [conclude_eq]
  exact (proceeds_goOn cause').ne_applying

end Loop

/-- What the loop has written is paid for, and the apply that it is in is open. -/
structure Guarded (notes : List Note) (t : Timeline BenchDevice) : Prop where
  paid : Paid notes
  opened : ∀ cause limit, t.loop.point = .applying cause limit → t.now ≤ limit ∧ OpenApply notes

namespace Guarded

variable {t : Timeline BenchDevice} {notes : List Note} {stimulus : Stimulus}

/-- A loop that is in no apply. -/
theorem of_paid (paid : Paid notes)
    (free : ∀ cause limit, t.loop.point ≠ .applying cause limit) : Guarded notes t :=
  ⟨paid, fun cause limit applying => absurd applying (free cause limit)⟩

theorem feed_of_judges {cause : Cause} {verdict : Verdict} (paid : Paid notes)
    (judges : t.loop.Judges t.now stimulus cause verdict) :
    Guarded (notes ++ noted (t.since (t.feed stimulus))) (t.feed stimulus) := by
  rw [Timeline.feed_of_step (Loop.step_of_judges judges)]
  refine of_paid (paid.append isCommit_of_mem_noted) ?_
  intro cause' limit
  rw [Timeline.performAll_loop]
  exact Loop.conclude_ne_applying

theorem feed (h : Guarded notes t) (stimulus : Stimulus) :
    Guarded (notes ++ noted (t.since (t.feed stimulus))) (t.feed stimulus) := by
  rcases t.feed_cases stimulus with same | ⟨loop, effects, taken, fed⟩
  · rw [same, Timeline.since_self, noted, List.map_nil, List.append_nil]
    exact h
  · have paid : Paid (notes ++ noted effects) := h.paid.append isCommit_of_mem_noted
    rw [fed, Timeline.since_performAll]
    cases (Loop.transition_of_step taken).progress with
    | proceeds free proceeds =>
      refine of_paid paid fun cause limit => ?_
      rw [Timeline.performAll_loop]
      exact proceeds.ne_applying
    | beside busy outside same point idle waits =>
      refine ⟨paid, fun cause limit applying => ?_⟩
      rw [Timeline.performAll_loop] at applying
      rw [Timeline.performAll_now]
      obtain ⟨inTime, opened⟩ := h.opened cause limit (point.symm.trans applying)
      refine ⟨inTime, opened.append ?_⟩
      exact forall_mem_noted fun effect member => Note.isBeside_did (idle effect member)
    | drifts reading differs =>
      refine ⟨paid, fun cause limit applying => ?_⟩
      rw [Timeline.performAll_loop] at applying
      rw [Timeline.performAll_now]
      cases applying
      exact ⟨Tick.le_sleepEnd _ _, .of_append ⟨[.did (.report _)], t.loop.intent, [], rfl, nofun⟩⟩
    | settles judges =>
      refine of_paid paid fun cause limit => ?_
      rw [Timeline.performAll_loop]
      exact Loop.conclude_ne_applying

theorem isBeside_of_mem_setting {setting : BenchDevice.Setting} :
    ∀ note ∈ setting.notes, note.isBeside = true := by
  cases setting <;> simp [BenchDevice.Setting.notes, Note.isBeside]

/-- What others write is not the loop's to pay for. -/
theorem append (h : Guarded notes t) {more : List Note}
    (beside : ∀ note ∈ more, note.isBeside = true) {u : Timeline BenchDevice}
    (point : u.loop.point = t.loop.point) (now : u.now = t.now) :
    Guarded (notes ++ more) u := by
  refine ⟨h.paid.append fun note member => ?_, fun cause limit applying => ?_⟩
  · exact Note.isCommit_of_isBeside (beside note member)
  · obtain ⟨inTime, opened⟩ := h.opened cause limit (point ▸ applying)
    exact ⟨now ▸ inTime, opened.append beside⟩

theorem pass (h : Guarded notes t) {now : Tick}
    (inTime : ∀ messageFirst due what, t.next? messageFirst = some (due, what) →
      now ≤ max t.now due) : Guarded notes { t with now } := by
  refine ⟨h.paid, fun cause limit applying => ?_⟩
  obtain ⟨still, opened⟩ := h.opened cause limit applying
  have at_ : t.loop.point = .applying cause limit := applying
  obtain ⟨due, what, next, early⟩ := Timeline.exists_next?_of_applying at_ fun _ => false
  exact ⟨Nat.le_trans (inTime _ due what next) (Nat.max_le.mpr ⟨still, early⟩), opened⟩

/-- The device answers, and has written if that is to an apply, which is open, and is taken. -/
theorem answer (h : Guarded notes t) (call : Call) :
    Guarded (notes ++ ((Due.answer call).notes t.loop.point ++ noted (t.since (t.answer call))))
      (t.answer call) := by
  obtain ⟨due, result⟩ := call
  rw [← List.append_assoc]
  unfold Timeline.answer
  split
  · next cause limit applying =>
    obtain ⟨inTime, opened⟩ := h.opened cause limit applying
    rw [applying]
    cases result with
    | ok state =>
      exact feed_of_judges
        (t := { t with call := none, device := Device.commit t.device t.loop.intent })
        (h.paid.append_commit opened) (.applied applying inTime)
    | error error =>
      have paid : Paid (notes ++ []) := h.paid.append nofun
      exact feed_of_judges (t := { t with call := none }) paid (.failed applying inTime)
  · next free =>
    have beside : ∀ note ∈ (Due.answer ⟨due, result⟩).notes t.loop.point,
        note.isBeside = true := by
      cases point : t.loop.point with
      | applying cause limit => exact absurd point (free cause limit)
      | _ => simp [Due.notes, Note.isBeside]
    have answered := h.append (u := { t with call := none }) beside rfl rfl
    exact answered.feed (.readAnswered result)

theorem happen {messageFirst : Tick → Bool} {due : Tick} {what : Due} (h : Guarded notes t)
    (next : t.next? messageFirst = some (due, what)) :
    Guarded
      (notes ++ (what.notes t.loop.point ++
        noted (t.since ({ t with now := max t.now due }.happen what))))
      ({ t with now := max t.now due }.happen what) := by
  -- Nothing that comes due lies behind the limit of an apply.
  have now : Guarded notes { t with now := max t.now due } := by
    refine h.pass fun messageFirst' due' what' next' => ?_
    exact Nat.le_of_eq (Timeline.max_next? next next')
  cases what with
  | answer call => exact now.answer call
  | timeUp =>
    have uncalled : Guarded notes { t with now := max t.now due, call := none } :=
      ⟨now.paid, now.opened⟩
    exact uncalled.feed .timeUp
  | receive => exact now.feed .receive

theorem of_life {first : List Note} {u : Timeline BenchDevice} (h : Guarded first t)
    (life : Life t notes u) : Guarded (first ++ notes) u := by
  induction life with
  | start =>
    rw [List.append_nil]
    exact h
  | plan earlier script ih => exact ⟨ih.paid, ih.opened⟩
  | feed earlier stimulus outside ih =>
    rw [← List.append_assoc]
    exact ih.feed stimulus
  | change earlier setting ih =>
    rw [← List.append_assoc]
    exact ih.append isBeside_of_mem_setting rfl rfl
  | pass earlier now forward inTime ih => exact ih.pass inTime
  | happen earlier messageFirst next ih =>
    rw [← List.append_assoc]
    exact ih.happen next

end Guarded

/-! ## From the beginning of an apply to its end -/

namespace Loop

variable {l l' : Loop}

theorem SameBooks.trans {l'' : Loop} (h : SameBooks l l') (h' : SameBooks l' l'') :
    SameBooks l l'' :=
  ⟨h'.intent.trans h.intent, h'.options.trans h.options, h'.iteration.trans h.iteration,
    h'.failures.trans h.failures, h'.summary.trans h.summary⟩

/-- The report of a verdict on the iteration that a loop is in. -/
def verdictEvent (l : Loop) (verdict : Verdict) : Event :=
  verdict.event l.state.iteration (l.judged verdict).state.consecutiveFailures

theorem SameBooks.verdictEvent_eq (h : SameBooks l l') (verdict : Verdict) :
    l'.verdictEvent verdict = l.verdictEvent verdict := by
  have failures := h.failures
  cases verdict <;>
    simp only [verdictEvent, Verdict.event, judged, LoopState.recordFailure,
      LoopState.finishIteration, h.iteration, failures]

end Loop

/-- A timeline is in an apply that ends like this. -/
structure InApply (t : Timeline BenchDevice) (cause : Cause) (limit : Tick) (call : Call)
    (fin : ApplyEnd) : Prop where
  point : t.loop.point = .applying cause limit
  called : t.call = some call
  ends : call.applyEnd limit t.loop.options.applyTimeout = fin
  early : t.now ≤ fin.time

/-- An apply begun in one timeline is still on in another, and its end is yet to come. -/
structure Pends (t : Timeline BenchDevice) (fin : ApplyEnd) (notes : List Note)
    (v : Timeline BenchDevice) : Prop where
  point : v.loop.point = t.loop.point
  call : v.call = t.call
  books : Loop.SameBooks t.loop v.loop
  early : v.now ≤ fin.time
  beside : ∀ note ∈ notes, note.isBeside = true
  history : ∃ waiting, v.history = t.history ++ waiting ∧ ∀ entry ∈ waiting, entry.2.isIdle = true

/-- What becomes of an apply: it is on, or it has come to its end and whatever followed. -/
inductive Course (t : Timeline BenchDevice) (fin : ApplyEnd) :
    List Note → Timeline BenchDevice → Prop where
  | pends {notes : List Note} {v : Timeline BenchDevice} (pends : Pends t fin notes v) :
      Course t fin notes v
  | ended {ahead behind : List Note} {w v : Timeline BenchDevice} {messageFirst : Tick → Bool}
      {due : Tick} {what : Due} (pends : Pends t fin ahead w)
      (next : w.next? messageFirst = some (due, what))
      (since : Life ({ w with now := max w.now due }.happen what) behind v) :
      Course t fin
        (ahead ++ (what.notes w.loop.point ++
          noted (w.since ({ w with now := max w.now due }.happen what)) ++ behind)) v

/--
A step ends an apply: its write comes first, then its report, then what the loop goes on with, which
is no apply.
-/
def EndsApply (fin : ApplyEnd) (event : Event) (w : Timeline BenchDevice) (notes : List Note)
    (w' : Timeline BenchDevice) : Prop :=
  ∃ more, notes = fin.verdict.writes ++ .did (.report event) :: noted more ∧
    w'.history =
      w.history ++ (fin.time, .report event) :: Timeline.stamped fin.time more ∧
    ∀ cause limit, w'.loop.point ≠ .applying cause limit

theorem endsApply_of_judges {w : Timeline BenchDevice} {stimulus : Stimulus} {cause : Cause}
    {verdict : Verdict} (judges : w.loop.Judges w.now stimulus cause verdict) :
    EndsApply ⟨w.now, verdict⟩ (w.loop.verdictEvent verdict) w
      (verdict.writes ++ noted (w.since (w.feed stimulus))) (w.feed stimulus) := by
  rw [Timeline.feed_of_step (Loop.step_of_judges judges)]
  refine ⟨cause.answer verdict.outcome ++ ((w.loop.judged verdict).goOn w.now cause).2, ?_, ?_, ?_⟩
  · rw [Timeline.since_performAll]
    rfl
  · rw [Timeline.history_performAll]
    rfl
  · intro cause' limit
    rw [Timeline.performAll_loop]
    exact Loop.conclude_ne_applying

section

variable {t v : Timeline BenchDevice} {cause : Cause} {limit : Tick} {call : Call}
  {fin : ApplyEnd} {notes : List Note}

namespace Pends

theorem next?_eq (h : Pends t fin notes v) (begun : InApply t cause limit call fin)
    (messageFirst : Tick → Bool) :
    v.next? messageFirst =
      if call.due ≤ limit then some (call.due, .answer call) else some (limit, .timeUp) := by
  simp only [Timeline.next?, h.point, begun.point, h.call, begun.called]

/-- The end is what happens next. -/
theorem exists_next? (h : Pends t fin notes v) (begun : InApply t cause limit call fin)
    (messageFirst : Tick → Bool) :
    ∃ due what, v.next? messageFirst = some (due, what) ∧ max v.now due = fin.time := by
  have early := h.early
  rw [h.next?_eq begun messageFirst]
  rw [← begun.ends, Call.applyEnd] at early ⊢
  by_cases inTime : call.due ≤ limit
  · simp only [if_pos inTime] at early ⊢
    exact ⟨call.due, .answer call, rfl, Nat.max_eq_right early⟩
  · simp only [if_neg inTime] at early ⊢
    exact ⟨limit, .timeUp, rfl, Nat.max_eq_right early⟩

theorem feed (h : Pends t fin notes v) (begun : InApply t cause limit call fin)
    {stimulus : Stimulus} (outside : stimulus.isOutside = true) :
    Pends t fin (notes ++ noted (v.since (v.feed stimulus))) (v.feed stimulus) := by
  rcases v.feed_cases stimulus with same | ⟨loop, effects, taken, fed⟩
  · rw [same, Timeline.since_self, noted, List.map_nil, List.append_nil]
    exact h
  · have busy : v.loop.point.cause? = some cause := by
      rw [h.point, begun.point]
      rfl
    obtain ⟨books, point, idle, -⟩ := (Loop.transition_of_step taken).outside outside busy
    obtain ⟨-, call⟩ := Timeline.performAll_idle (t := { v with loop }) idle
    obtain ⟨waiting, history, quiet⟩ := h.history
    rw [fed, Timeline.since_performAll]
    refine ⟨?_, call.trans h.call, ?_, ?_, ?_, ?_⟩
    · rw [Timeline.performAll_loop]
      exact point.trans h.point
    · rw [Timeline.performAll_loop]
      exact h.books.trans books
    · rw [Timeline.performAll_now]
      exact h.early
    · intro note member
      rcases List.mem_append.mp member with earlier | now
      · exact h.beside note earlier
      · obtain ⟨effect, among, rfl⟩ := List.mem_map.mp now
        exact Note.isBeside_did (idle effect among)
    · refine ⟨waiting ++ Timeline.stamped v.now effects, ?_, ?_⟩
      · rw [Timeline.history_performAll, ← List.append_assoc, ← history]
        rfl
      · intro entry member
        rcases List.mem_append.mp member with earlier | now
        · exact quiet entry earlier
        · obtain ⟨effect, among, rfl⟩ := List.mem_map.mp now
          exact idle effect among

/-- Time passes, and not past the end. -/
theorem pass (h : Pends t fin notes v) (begun : InApply t cause limit call fin) {now : Tick}
    (inTime : ∀ messageFirst due what, v.next? messageFirst = some (due, what) →
      now ≤ max v.now due) : Pends t fin notes { v with now } := by
  obtain ⟨due, what, next, same⟩ := h.exists_next? begun fun _ => false
  have early : now ≤ fin.time := same ▸ inTime _ due what next
  exact ⟨h.point, h.call, h.books, early, h.beside, h.history⟩

theorem change (h : Pends t fin notes v) (setting : BenchDevice.Setting) :
    Pends t fin (notes ++ setting.notes) { v with device := v.device.set setting } := by
  refine ⟨h.point, h.call, h.books, h.early, ?_, h.history⟩
  intro note member
  rcases List.mem_append.mp member with earlier | now
  · exact h.beside note earlier
  · exact Guarded.isBeside_of_mem_setting note now

theorem happen (h : Pends t fin notes v) (begun : InApply t cause limit call fin)
    {messageFirst : Tick → Bool} {due : Tick} {what : Due}
    (next : v.next? messageFirst = some (due, what)) :
    EndsApply fin (t.loop.verdictEvent fin.verdict) v
      (what.notes v.loop.point ++ noted (v.since ({ v with now := max v.now due }.happen what)))
      ({ v with now := max v.now due }.happen what) := by
  have at_ : v.loop.point = .applying cause limit := h.point.trans begun.point
  obtain ⟨due', what', next', time⟩ := h.exists_next? begun messageFirst
  cases next.symm.trans next'
  rw [h.next?_eq begun] at next
  rw [← h.books.verdictEvent_eq, time, ← begun.ends, Call.applyEnd, ← h.books.options]
  obtain ⟨answered, result⟩ := call
  -- The answer goes first at a tie, here and in the end that was foreseen.
  by_cases inTime : answered ≤ limit
  · rw [if_pos inTime] at next ⊢
    cases next
    simp only [Timeline.happen, Timeline.answer, Due.notes, at_]
    cases result with
    | ok state =>
      exact endsApply_of_judges
        (w := { v with
          now := answered, call := none, device := Device.commit v.device v.loop.intent })
        (.applied at_ inTime)
    | error error =>
      exact endsApply_of_judges (w := { v with now := answered, call := none })
        (.failed at_ inTime)
  · rw [if_neg inTime] at next ⊢
    cases next
    exact endsApply_of_judges (w := { v with now := limit, call := none })
      (.timedOut at_ (Nat.le_refl limit))

end Pends

/-- Every life from within an apply is one of its courses. -/
theorem course_of_life (begun : InApply t cause limit call fin) (h : Life t notes v) :
    Course t fin notes v := by
  -- On the life: a step leaves the apply pending, is its end, or belongs to what follows.
  induction h with
  | start =>
    exact .pends ⟨rfl, rfl, .refl _, begun.early, nofun, [], (List.append_nil _).symm, nofun⟩
  | plan earlier script ih =>
    cases ih with
    | pends pends =>
      exact .pends ⟨pends.point, pends.call, pends.books, pends.early, pends.beside, pends.history⟩
    | ended pends next since => exact .ended pends next (since.plan script)
  | feed earlier stimulus outside ih =>
    cases ih with
    | pends pends => exact .pends (pends.feed begun outside)
    | ended pends next since =>
      have course := Course.ended pends next (since.feed stimulus outside)
      simpa only [List.append_assoc] using course
  | change earlier setting ih =>
    cases ih with
    | pends pends => exact .pends (pends.change setting)
    | ended pends next since =>
      have course := Course.ended pends next (since.change setting)
      simpa only [List.append_assoc] using course
  | pass earlier now forward inTime ih =>
    cases ih with
    | pends pends => exact .pends (pends.pass begun inTime)
    | ended pends next since => exact .ended pends next (since.pass now forward inTime)
  | happen earlier messageFirst next ih =>
    cases ih with
    | pends pends =>
      have course := Course.ended pends next .start
      rwa [List.append_nil] at course
    | ended pends next' since =>
      have course := Course.ended pends next' (since.happen messageFirst next)
      simpa only [List.append_assoc] using course

end

/-- Whatever becomes of a timeline, what its loop has done stays done. -/
theorem Life.history {t v : Timeline BenchDevice} {notes : List Note} (h : Life t notes v) :
    t.history <+: v.history := by
  induction h with
  | start => exact List.prefix_refl _
  | plan earlier script ih => exact ih
  | feed earlier stimulus outside ih => exact ih.trans (Timeline.history_feed stimulus)
  | change earlier setting ih => exact ih
  | pass earlier now forward inTime ih => exact ih
  | @happen notes u earlier messageFirst due what next ih =>
    exact ih.trans (Timeline.history_happen (t := { u with now := max u.now due }) what)

/-- An apply is still on, or has been written if it is taken, and told at its end. -/
theorem Course.pends_or_told {t v : Timeline BenchDevice} {cause : Cause} {limit : Tick}
    {call : Call} {fin : ApplyEnd} {notes : List Note} (begun : InApply t cause limit call fin)
    (course : Course t fin notes v) :
    Pends t fin notes v ∨ ∃ ahead behind waiting since,
      notes = ahead ++
        (fin.verdict.writes ++ .did (.report (t.loop.verdictEvent fin.verdict)) :: behind) ∧
      v.history = t.history ++
        (waiting ++ (fin.time, .report (t.loop.verdictEvent fin.verdict)) :: since) ∧
      (∀ note ∈ ahead, note.isBeside = true) ∧ (∀ entry ∈ waiting, entry.2.isIdle = true) ∧
      Paid behind := by
  cases course with
  | pends pends => exact .inl pends
  | @ended ahead behind w _ messageFirst due what pends next since =>
    obtain ⟨more, told, history, free⟩ := pends.happen begun next
    obtain ⟨waiting, history', idle⟩ := pends.history
    obtain ⟨rest, history''⟩ := since.history
    -- Behind the end no apply is open, so what is written from there on is paid for anew.
    have nothing : Paid [] := throughout_nil
    have paid : Paid (noted more) := nothing.append isCommit_of_mem_noted
    have guarded := (Guarded.of_paid paid free).of_life since
    refine .inr ⟨ahead, noted more ++ behind, waiting, Timeline.stamped fin.time more ++ rest, ?_,
      ?_, pends.beside, idle, guarded.paid⟩
    · rw [told, List.append_assoc]
      rfl
    · rw [← history'', history, history', List.append_assoc, List.append_assoc]
      rfl

/-! ## Applies of drifted devices -/

/-- The answer that an apply begins with says how it ends. -/
theorem BenchDevice.applyEnd_eq (d : BenchDevice) (intent : Intent) (timeout : Duration)
    (now : Tick) :
    (Call.mk (now.sleepEnd (d.startApply intent).2.delay) (d.startApply intent).2.result).applyEnd
        (now.sleepEnd timeout) timeout = d.applyEnd intent timeout now := by
  unfold Call.applyEnd BenchDevice.applyEnd
  cases fails : d.failingApplies with
  | zero =>
    simp only [startApply, fails, Tick.sleepEnd_eq_add, Nat.add_le_add_iff_left,
      Nat.lt_irrefl, if_false]
    rfl
  | succ left =>
    have atOnce : now.sleepEnd .zero ≤ now.sleepEnd timeout := by
      rw [Tick.sleepEnd_zero]
      exact Tick.le_sleepEnd now timeout
    simp only [startApply, fails, if_pos atOnce, Nat.zero_lt_succ, if_true]
    rfl

theorem BenchDevice.le_time_applyEnd (d : BenchDevice) (intent : Intent) (timeout : Duration)
    (now : Tick) : now ≤ (d.applyEnd intent timeout now).time := by
  unfold applyEnd
  split
  · exact Nat.le_refl now
  · split <;> exact Nat.le_add_right _ _

/-- A device is found drifted, and given the intent. -/
theorem Timeline.happen_of_drift {u : Timeline BenchDevice} {cause : Cause} {call : Call}
    {observed : OperationalState} (reading : u.loop.point = .reading cause)
    (answered : call.result = .ok observed) (drifted : observed ≠ u.loop.intent.state) :
    u.happen (.answer call) =
      { u with
        call := none
        loop := { u.loop with
          state := u.loop.state.startApplying
          point := .applying cause (u.now.sleepEnd u.loop.options.applyTimeout) } }.performAll
        [.report (.drift u.loop.state.iteration (detectDrift u.loop.intent observed)),
          .apply u.loop.intent] := by
  have differs : isCompliant u.loop.intent observed = false := by
    rw [← Bool.not_eq_true, isCompliant_iff]
    exact drifted
  show u.answer call = _
  rw [Timeline.answer, reading, answered]
  exact Timeline.feed_of_step (t := { u with call := none })
    (Loop.step_of_drifted reading differs)

/-- The device counts an apply that begins, and one failure less. -/
theorem BenchDevice.startApply_fst (d : BenchDevice) (intent : Intent) :
    (d.startApply intent).1 = { d with
      applyCalls := d.applyCalls + 1, failingApplies := d.failingApplies - 1 } := by
  unfold startApply
  cases d.failingApplies <;> rfl

/-- An apply has begun that ends as its device is set. -/
theorem inApply_of_drift {u : Timeline BenchDevice} {cause : Cause} {call : Call}
    {observed : OperationalState} (reading : u.loop.point = .reading cause)
    (answered : call.result = .ok observed) (drifted : observed ≠ u.loop.intent.state) :
    Loop.SameBooks u.loop (u.happen (.answer call)).loop ∧
      (u.happen (.answer call)).device = (u.device.startApply u.loop.intent).1 ∧
      InApply (u.happen (.answer call)) cause (u.now.sleepEnd u.loop.options.applyTimeout)
        ⟨u.now.sleepEnd (u.device.startApply u.loop.intent).2.delay,
          (u.device.startApply u.loop.intent).2.result⟩
        (u.device.applyEnd u.loop.intent u.loop.options.applyTimeout u.now) := by
  rw [Timeline.happen_of_drift reading answered drifted]
  refine ⟨?_, rfl, ?_, rfl, ?_, ?_⟩
  · rw [Timeline.performAll_loop]
    exact ⟨rfl, rfl, rfl, rfl, rfl⟩
  · rw [Timeline.performAll_loop]
  · rw [Timeline.performAll_loop]
    exact u.device.applyEnd_eq _ _ _
  · rw [Timeline.performAll_now]
    exact u.device.le_time_applyEnd _ _ _

/--
An apply of a drifted device ends as the device is set when it begins, whatever others do in the
meantime: until its end it is on, and nothing is written but by others; the end comes in time, its
write, if it has one, first, and then its report. The device counts one apply, and one failure less.
From then on each write of the loop falls into the time of an apply that has begun later, so one
that fails never writes. The state is at every moment what was written last.
-/
theorem apply_ends_as_begun {u v : Timeline BenchDevice} {cause : Cause} {call : Call}
    {observed : OperationalState} {notes : List Note} (reading : u.loop.point = .reading cause)
    (answered : call.result = .ok observed) (drifted : observed ≠ u.loop.intent.state)
    (h : Life (u.happen (.answer call)) notes v) :
    let t := u.happen (.answer call)
    let fin := u.device.applyEnd u.loop.intent u.loop.options.applyTimeout u.now
    let told := fin.verdict.event u.loop.state.iteration
      (u.loop.judged fin.verdict).state.consecutiveFailures
    t.device = { u.device with
      applyCalls := u.device.applyCalls + 1, failingApplies := u.device.failingApplies - 1 } ∧
    v.device.applyCalls = u.device.applyCalls + 1 + notes.countP Note.isApply ∧
    v.device.state = (latestWrite notes).elim u.device.state (Write.state u.loop.intent) ∧
    ((v.loop.point = t.loop.point ∧ v.now ≤ fin.time ∧ (∀ note ∈ notes, note.isBeside = true) ∧
        ∀ messageFirst, ∃ due what, v.next? messageFirst = some (due, what) ∧
          max v.now due = fin.time) ∨
      ∃ ahead behind waiting since,
        notes = ahead ++ (fin.verdict.writes ++ .did (.report told) :: behind) ∧
        v.history = t.history ++ (waiting ++ (fin.time, .report told) :: since) ∧
        (∀ note ∈ ahead, note.isBeside = true) ∧
        (∀ entry ∈ waiting, entry.2.isIdle = true) ∧ Paid behind ∧
        (behind.countP Note.isApply = 0 →
          notes.countP Note.isCommit = fin.verdict.writes.length)) := by
  intro t fin told
  obtain ⟨books, device, begun⟩ := inApply_of_drift reading answered drifted
  have undergone := h.undergoes.2
  rw [books.intent, device, u.device.startApply_fst] at undergone
  refine ⟨device.trans (u.device.startApply_fst _), undergone.calls, undergone.state, ?_⟩
  rcases (course_of_life begun h).pends_or_told begun with
    pends | ⟨ahead, behind, waiting, since, notes_eq, history, beside, idle, paid⟩
  · exact .inl ⟨pends.point, pends.early, pends.beside, pends.exists_next? begun⟩
  · rw [books.verdictEvent_eq] at notes_eq history
    refine .inr ⟨ahead, behind, waiting, since, notes_eq, history, beside, idle, paid,
      fun none => ?_⟩
    rw [notes_eq]
    exact paid.countP_isCommit_eq beside none

/-- An apply that is given up leaves the state that somebody has set in the meantime. -/
theorem state_of_apply_given_up :
    let device : BenchDevice := { name := "router1", state := .drifted, applyDelay := .ofSecs 5 }
    let set (setting : BenchDevice.Setting) : Action BenchDevice :=
      .change fun device => device.set setting
    let script : List (Planned BenchDevice) :=
      [⟨1000, set (.state ⟨"ssh", 22, true⟩)⟩, ⟨1500, set (.applyDelay .zero)⟩]
    let u := { Timeline.create device .sample ⟨.ofSecs 1, .ofSecs 2, none, none⟩ with
      script }.feed .iterate
    ∃ notes v, (u.happen (.answer ⟨0, .ok .drifted⟩)).settle? (fun _ => false) 10 = some v ∧
      Life (u.happen (.answer ⟨0, .ok .drifted⟩)) notes v ∧
      v.device.applyCalls = 1 ∧ v.device.state = ⟨"ssh", 22, true⟩ ∧
      v.device.state = (latestWrite notes).elim .drifted (Write.state .sample) ∧
      ∃ ahead behind, notes =
          ahead ++ .did (.report (.applyFailed 1 (.applyTimeout (.ofSecs 2)) 1)) :: behind ∧
        Paid behind := by
  intro device set script u
  have outside (setting : BenchDevice.Setting) : (set setting).IsOutside := ⟨setting, rfl⟩
  have scripted : (u.happen (.answer ⟨0, .ok .drifted⟩)).Scripted := by
    rw [Timeline.Scripted, Timeline.happen_script, Timeline.feed_script]
    simp [script, outside]
  have fin : u.device.applyEnd u.loop.intent u.loop.options.applyTimeout u.now =
      ⟨2000, .failed (.applyTimeout (.ofSecs 2))⟩ := by
    have late : ¬u.device.applyDelay.slept ≤ u.loop.options.applyTimeout.slept := by decide
    have time : u.now + u.loop.options.applyTimeout.slept = 2000 := by decide
    rw [BenchDevice.applyEnd, if_neg (by decide), if_neg late, time]
    rfl
  have evaluated : ((u.happen (.answer ⟨0, .ok .drifted⟩)).settle? (fun _ => false) 10).map
      (fun v => (v.device.applyCalls, v.device.state, v.loop.point)) =
        some (1, ⟨"ssh", 22, true⟩, .idle) := by decide
  obtain ⟨v, settled, found⟩ := Option.map_eq_some_iff.mp evaluated
  obtain ⟨notes, life⟩ := Life.of_settle? scripted settled
  obtain ⟨-, -, state, course⟩ := apply_ends_as_begun (u := u) rfl rfl (by decide) life
  refine ⟨notes, v, settled, life, congrArg Prod.fst found, congrArg (·.2.1) found, state, ?_⟩
  rcases course with ⟨point, -⟩ | ⟨ahead, behind, -, -, told, -, -, -, paid, -⟩
  · have idle : v.loop.point = .idle := congrArg (·.2.2) found
    rw [idle] at point
    cases point
  · rw [fin] at told
    exact ⟨ahead, behind, told, paid⟩

/-- An apply of more than thirty years is taken, although its limit lies before its end. -/
theorem apply_of_long_delay :
    let device : BenchDevice :=
      { name := "router1", state := .drifted, applyDelay := .ofSecs 946080002 }
    let options : LoopOptions := ⟨.ofSecs 1, .ofSecs 946080001, none, none⟩
    Tick.after? 0 device.applyDelay = some 946080002000 ∧
      Tick.after? 0 options.applyTimeout = some 946080001000 ∧
      ((Timeline.create device .sample options).iterate? (fun _ => false) 10).map
          (fun v => (v.lastOutcome?, v.now, v.device.state)) =
        some (some .converged, 946080000000, Intent.sample.state) := by
  decide

end ClosedLoop
