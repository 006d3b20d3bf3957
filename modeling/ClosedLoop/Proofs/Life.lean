import ClosedLoop.Proofs.Calls
import ClosedLoop.Proofs.Stepping
import ClosedLoop.Device.Bench

/-!
# The life of a bench device

What happens to a device on the bench and its loop, noted in its order: what the loop does, what its
reads return, and each write of the state, be it by an apply of the loop or by somebody else.

* `Life` — what can become of a timeline while others change the device, at any time
* `Life.of_run` — what a script of messages and changes leads to is a life
-/

namespace ClosedLoop

/-! ## Notes -/

/-- A write of the state of a device. -/
inductive Write where
  /-- Somebody else sets the state. -/
  | outside (state : OperationalState)
  /-- An apply of the loop succeeds. -/
  | committed
  deriving DecidableEq, Repr

/-- The state that a write leaves. -/
def Write.state (intent : Intent) : Write → OperationalState
  | outside state => state
  | committed => intent.state

/-- What is noted of a device and its loop. -/
inductive Note where
  | wrote (write : Write)
  /-- A read returns. -/
  | answered (result : Except EnforcementError OperationalState)
  | did (effect : Effect)

namespace Note

@[simp] def write? : Note → Option Write
  | wrote write => some write
  | _ => none

/-- A read of the device begins. -/
@[simp] def isRead : Note → Bool
  | did effect => effect.isRead
  | _ => false

/-- An apply succeeds. -/
@[simp] def isCommit : Note → Bool
  | wrote .committed => true
  | _ => false

/-- Somebody else sets the state. -/
@[simp] def isOutside : Note → Bool
  | wrote (.outside _) => true
  | _ => false

end Note

/-- Effects as they are noted. -/
abbrev noted (effects : List Effect) : List Note :=
  effects.map .did

theorem forall_mem_noted {p : Note → Prop} {effects : List Effect}
    (h : ∀ effect ∈ effects, p (.did effect)) : ∀ note ∈ noted effects, p note := by
  intro note member
  obtain ⟨effect, among, rfl⟩ := List.mem_map.mp member
  exact h effect among

theorem isRead_of_mem_noted_told {l : Loop} {cause : Cause} {verdict : Verdict} :
    ∀ note ∈ noted (l.told cause verdict), note.isRead = false :=
  forall_mem_noted fun _ member => (Effect.of_not_isCall (Loop.isCall_of_mem_told member)).1

/-! ## The latest write -/

/-- The write that nothing has been written behind. -/
def latestWrite (notes : List Note) : Option Write :=
  (notes.filterMap Note.write?).getLast?

/-- Nothing is written. -/
def Unwritten (notes : List Note) : Prop :=
  ∀ note ∈ notes, note.write? = none

theorem unwritten_noted (effects : List Effect) : Unwritten (noted effects) :=
  forall_mem_noted fun _ _ => rfl

theorem unwritten_answered (result : Except EnforcementError OperationalState) :
    Unwritten [.answered result] := by
  simp [Unwritten]

theorem latestWrite_concat (notes : List Note) (write : Write) :
    latestWrite (notes ++ [.wrote write]) = some write := by
  simp [latestWrite]

section

variable {notes more : List Note}

theorem latestWrite_append (unwritten : Unwritten more) :
    latestWrite (notes ++ more) = latestWrite notes := by
  rw [latestWrite, List.filterMap_append, List.filterMap_eq_nil_iff.mpr unwritten, List.append_nil,
    latestWrite]

theorem countP_isCommit_append (unwritten : Unwritten more) :
    (notes ++ more).countP Note.isCommit = notes.countP Note.isCommit := by
  have none : more.countP Note.isCommit = 0 := List.countP_eq_zero.mpr fun note member => by
    cases note with
    | wrote write => exact nomatch unwritten _ member
    | _ => exact Bool.false_ne_true
  rw [List.countP_append, none, Nat.add_zero]

theorem countP_isOutside_append (unwritten : Unwritten more) :
    (notes ++ more).countP Note.isOutside = notes.countP Note.isOutside := by
  have none : more.countP Note.isOutside = 0 := List.countP_eq_zero.mpr fun note member => by
    cases note with
    | wrote write => exact nomatch unwritten _ member
    | _ => exact Bool.false_ne_true
  rw [List.countP_append, none, Nat.add_zero]

/-- Without writes from outside, the latest write is from an apply, if there is one at all. -/
theorem latestWrite_append_of_no_outside (notes : List Note)
    (alone : more.countP Note.isOutside = 0) :
    latestWrite (notes ++ more) = some .committed ∨
      latestWrite (notes ++ more) = latestWrite notes := by
  rw [latestWrite, List.filterMap_append, List.getLast?_append]
  cases latest : (more.filterMap Note.write?).getLast? with
  | none => exact .inr rfl
  | some write =>
    obtain ⟨note, member, written⟩ := List.mem_filterMap.mp (List.mem_of_getLast? latest)
    have own := List.countP_eq_zero.mp alone note member
    cases note with
    | wrote write' =>
      cases written
      cases write with
      | outside state => exact absurd rfl own
      | committed => exact .inl rfl
    | _ => cases written

end

/-! ## Lives -/

/-- The write that comes with a change from outside, if it is one of the state. -/
def BenchDevice.Setting.notes : BenchDevice.Setting → List Note
  | .state written => [.wrote (.outside written)]
  | _ => []

/-- What is noted where something due happens: an apply that succeeds writes at its end. -/
def Timeline.Due.notes (point : Point) : Timeline.Due → List Note
  | .answer call =>
    match point, call.result with
    | .applying _ _, .ok _ => [.wrote .committed]
    | .applying _ _, .error _ => []
    | _, result => [.answered result]
  | _ => []

open Timeline (Due)

/--
What can become of a timeline, with what is noted on the way: calls of the loop, messages, handles
and changes of the device at any time, with any choice at ties; the clock does not go past what is
due. What is still to come of a script is nothing that has happened.
-/
inductive Life (t : Timeline BenchDevice) : List Note → Timeline BenchDevice → Prop where
  | start : Life t [] t
  | plan {notes : List Note} {u : Timeline BenchDevice} (earlier : Life t notes u)
      (script : List (Planned BenchDevice)) : Life t notes { u with script }
  | feed {notes : List Note} {u : Timeline BenchDevice} (earlier : Life t notes u)
      (stimulus : Stimulus) (outside : stimulus.isOutside = true) :
      Life t (notes ++ noted (u.since (u.feed stimulus))) (u.feed stimulus)
  | change {notes : List Note} {u : Timeline BenchDevice} (earlier : Life t notes u)
      (setting : BenchDevice.Setting) :
      Life t (notes ++ setting.notes) { u with device := u.device.set setting }
  | pass {notes : List Note} {u : Timeline BenchDevice} (earlier : Life t notes u) (now : Tick)
      (forward : u.now ≤ now)
      (inTime : ∀ messageFirst due what, u.next? messageFirst = some (due, what) →
        now ≤ max u.now due) : Life t notes { u with now }
  | happen {notes : List Note} {u : Timeline BenchDevice} (earlier : Life t notes u)
      (messageFirst : Tick → Bool) {due : Tick} {what : Due}
      (next : u.next? messageFirst = some (due, what)) :
      Life t
        (notes ++ (what.notes u.loop.point ++
          noted (u.since ({ u with now := max u.now due }.happen what))))
        ({ u with now := max u.now due }.happen what)

/-! ## Scripts -/

/-- A message, or a change of the device from outside. -/
def Action.IsOutside : Action BenchDevice → Prop
  | .send _ => True
  | .change edit => ∃ setting : BenchDevice.Setting, edit = fun device => device.set setting

/-- What is still to come of the script is messages and changes of the device. -/
def Timeline.Scripted (t : Timeline BenchDevice) : Prop :=
  ∀ planned ∈ t.script, planned.action.IsOutside

namespace Life

variable {t u v : Timeline BenchDevice} {notes more : List Note} {messageFirst : Tick → Bool}

theorem trans (h : Life t notes u) (h' : Life u more v) : Life t (notes ++ more) v := by
  induction h' with
  | start =>
    rw [List.append_nil]
    exact h
  | plan earlier script ih => exact ih.plan script
  | feed earlier stimulus outside ih =>
    rw [← List.append_assoc]
    exact ih.feed stimulus outside
  | change earlier setting ih =>
    rw [← List.append_assoc]
    exact ih.change setting
  | pass earlier now forward inTime ih => exact ih.pass now forward inTime
  | happen earlier messageFirst next ih =>
    rw [← List.append_assoc]
    exact ih.happen messageFirst next

theorem of_act {action : Action BenchDevice} (outside : action.IsOutside) :
    ∃ more, Life t more (t.act action) := by
  cases action with
  | send message => exact ⟨_, Life.start.feed (.send message) rfl⟩
  | change edit =>
    obtain ⟨setting, rfl⟩ := outside
    exact ⟨_, Life.start.change setting⟩

theorem of_play {script : List (Planned BenchDevice)}
    (outside : ∀ planned ∈ script, planned.action.IsOutside) :
    ∃ more, Life t more (t.play script) ∧ (t.play script).Scripted := by
  induction script generalizing t with
  | nil => exact ⟨[], Life.start.plan [], nofun⟩
  | cons planned rest ih =>
    rw [Timeline.play]
    split
    · obtain ⟨first, acted⟩ := of_act (t := t) (outside planned (List.mem_cons_self ..))
      obtain ⟨more, played, scripted⟩ := ih (t := t.act planned.action) fun p member =>
        outside p (List.mem_cons_of_mem _ member)
      exact ⟨first ++ more, acted.trans played, scripted⟩
    · exact ⟨[], Life.start.plan _, outside⟩

/-- Time passes up to the script, and the script goes on. -/
theorem of_pass_play (scripted : t.Scripted) {now : Tick} (forward : t.now ≤ now)
    (inTime : ∀ messageFirst due what, t.next? messageFirst = some (due, what) →
      now ≤ max t.now due) :
    ∃ more, Life t more ({ t with now }.play t.script) ∧
      ({ t with now }.play t.script).Scripted := by
  obtain ⟨more, played, scripted'⟩ := of_play (t := { t with now }) scripted
  exact ⟨_, (Life.start.pass now forward inTime).trans played, scripted'⟩

theorem of_step? (scripted : t.Scripted) (taken : t.step? messageFirst = some u) :
    ∃ more, Life t more u ∧ u.Scripted := by
  have happens {due : Tick} {what : Due} (next : t.next? messageFirst = some (due, what)) :
      ∃ more, Life t more ({ t with now := max t.now due }.happen what) ∧
        ({ t with now := max t.now due }.happen what).Scripted := by
    refine ⟨_, Life.start.happen messageFirst next, ?_⟩
    rw [Timeline.Scripted, Timeline.happen_script]
    exact scripted
  unfold Timeline.step? at taken
  split at taken
  · next due what next empty =>
    cases taken
    exact happens next
  · next due what planned rest next script =>
    split at taken
    · cases taken
      exact happens next
    · next later =>
      cases taken
      refine of_pass_play scripted (Nat.le_max_left _ _) fun messageFirst' due' what' next' => ?_
      rw [← Timeline.max_next? next next']
      exact Nat.le_of_lt (Nat.lt_of_not_le later)
  · next planned rest none script =>
    cases taken
    refine of_pass_play scripted (Nat.le_max_left _ _) fun messageFirst' due what next => ?_
    rw [Timeline.next?_eq_none none] at next
    cases next
  · cases taken

theorem of_settle? {fuel : Nat} (scripted : t.Scripted)
    (settled : t.settle? messageFirst fuel = some u) : ∃ more, Life t more u := by
  induction fuel generalizing t with
  | zero => cases settled
  | succ fuel ih =>
    rw [Timeline.settle?] at settled
    split at settled
    · next t₁ taken =>
      obtain ⟨first, goes, scripted'⟩ := of_step? scripted taken
      obtain ⟨more, rest⟩ := ih scripted' settled
      exact ⟨first ++ more, goes.trans rest⟩
    · cases settled
      exact ⟨[], .start⟩

/-- A run under a script is one way to live. -/
theorem of_run {fuel : Nat} {script : List (Planned BenchDevice)}
    (outside : ∀ planned ∈ script, planned.action.IsOutside)
    (ran : t.run? messageFirst fuel script = some u) : ∃ more, Life t more u := by
  have scripted : ({ t with script }.feed .run).Scripted := by
    rw [Timeline.Scripted, Timeline.feed_script]
    exact outside
  obtain ⟨more, rest⟩ := of_settle? scripted ran
  exact ⟨_, ((Life.start.plan script).feed .run rfl).trans rest⟩

end Life

end ClosedLoop
