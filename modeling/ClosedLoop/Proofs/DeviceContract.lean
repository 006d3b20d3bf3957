import ClosedLoop.Device.Bench
import ClosedLoop.Device.Simulated
import ClosedLoop.Sample

/-!
# What a device promises

What a loop relies on, for devices in anybody's hands: a read changes nothing and returns what was
written last, an apply that succeeds writes the intent, and what fails writes nothing. Failures come
as they are ordered: as many calls as were ordered last, the next ones, and none behind them.

An apply may take its time. What others do meanwhile stands between its begin and its end, and one
that is given up never ends.

* `Panel` — what can be told of a kind of device and set from outside, with the laws of its calls
* `Panel.Used` — what can be done with a device, deed by deed
* `Panel.used_serve` — whole calls one behind the other are one way to use it
* `Panel.KeepsContract`, `Panel.Used.keepsContract` — the promises, kept in every use
* `devices_keep_contract` — by the device in memory and by the one on the bench
-/

namespace ClosedLoop

/-! ## Panels -/

/-- The two calls of a device. -/
inductive CallKind where
  | read
  | apply
  deriving DecidableEq, Repr

/--
What can be told of a kind of device, with values of type `δ`, and how others change it, by settings
of type `σ`.
-/
structure Panel (δ σ : Type) [Device δ] where
  state : δ → OperationalState
  /-- Calls that still fail. -/
  failing : CallKind → δ → Nat
  set : δ → σ → δ
  /-- The state that a setting writes. -/
  written? : σ → Option OperationalState
  /-- The number of failures that a setting orders. -/
  ordered? : CallKind → σ → Option Nat
  state_set (d : δ) (setting : σ) : state (set d setting) = (written? setting).getD (state d)
  failing_set (kind : CallKind) (d : δ) (setting : σ) :
    failing kind (set d setting) = (ordered? kind setting).getD (failing kind d)
  state_read (now : Tick) (d : δ) : state (Device.read now d).1 = state d
  failing_read (kind : CallKind) (now : Tick) (d : δ) :
    failing kind (Device.read now d).1 = failing kind d - if kind = .read then 1 else 0
  result_read (now : Tick) (d : δ) (none : failing .read d = 0) :
    (Device.read now d).2.result = .ok (state d)
  error_read (now : Tick) (d : δ) (left : failing .read d ≠ 0) :
    ∃ reason, (Device.read now d).2.result = .error (.stateRead reason)
  state_apply (now : Tick) (d : δ) (intent : Intent) :
    state (Device.apply now d intent).1 = state d
  failing_apply (kind : CallKind) (now : Tick) (d : δ) (intent : Intent) :
    failing kind (Device.apply now d intent).1 = failing kind d - if kind = .apply then 1 else 0
  result_apply (now : Tick) (d : δ) (intent : Intent) (none : failing .apply d = 0) :
    (Device.apply now d intent).2.result = .ok intent.state
  error_apply (now : Tick) (d : δ) (intent : Intent) (left : failing .apply d ≠ 0) :
    ∃ reason, (Device.apply now d intent).2.result = .error (.apply reason)
  state_commit (d : δ) (intent : Intent) : state (Device.commit d intent) = intent.state
  failing_commit (kind : CallKind) (d : δ) (intent : Intent) :
    failing kind (Device.commit d intent) = failing kind d

/-- A device in memory cannot be changed from outside, and its reads do not fail. -/
def SimulatedDevice.panel : Panel SimulatedDevice Empty where
  state d := d.state
  failing
    | .read, _ => 0
    | .apply, d => d.rejectsRemaining
  set d setting := setting.elim
  written? setting := setting.elim
  ordered? _ setting := setting.elim
  state_set _ setting := setting.elim
  failing_set _ _ setting := setting.elim
  state_read _ _ := rfl
  failing_read kind _ _ := by cases kind <;> rfl
  result_read _ _ _ := rfl
  error_read _ _ left := absurd rfl left
  state_apply _ d intent := by
    show (d.startApply intent).1.state = d.state
    cases left : d.rejectsRemaining <;> simp only [startApply, left]
  failing_apply kind _ d intent := by
    cases kind with
    | read => rfl
    | apply =>
      show (d.startApply intent).1.rejectsRemaining = d.rejectsRemaining - 1
      cases left : d.rejectsRemaining with
      | zero => simp only [startApply, left, Nat.zero_sub]
      | succ n => simp only [startApply, left, Nat.add_one_sub_one]
  result_apply _ d intent none := by
    show (d.startApply intent).2.result = _
    simp only [startApply, none]
  error_apply _ d intent left := by
    obtain ⟨n, rejects⟩ := Nat.exists_eq_succ_of_ne_zero left
    refine ⟨d.name ++ " (" ++ d.platform ++ ") rejected the configuration", ?_⟩
    show (d.startApply intent).2.result = _
    simp only [startApply, show d.rejectsRemaining = n + 1 from rejects]
  state_commit _ _ := rfl
  failing_commit kind _ _ := by cases kind <;> rfl

/-- A device on the bench takes every setting there is. -/
def BenchDevice.panel : Panel BenchDevice BenchDevice.Setting where
  state d := d.state
  failing
    | .read, d => d.failingReads
    | .apply, d => d.failingApplies
  set := set
  written?
    | .state state => some state
    | _ => none
  ordered?
    | .read, .failingReads count => some count
    | .apply, .failingApplies count => some count
    | _, _ => none
  state_set _ setting := by cases setting <;> rfl
  failing_set kind _ setting := by cases kind <;> cases setting <;> rfl
  state_read _ d := d.state_read
  failing_read kind _ d := by
    show (match kind, d.read.1 with
      | .read, d => d.failingReads
      | .apply, d => d.failingApplies) = _
    cases kind <;> cases left : d.failingReads <;> simp [read, left]
  result_read _ d none := by
    show d.read.2.result = _
    simp only [read, show d.failingReads = 0 from none]
  error_read _ d left := by
    obtain ⟨n, fails⟩ := Nat.exists_eq_succ_of_ne_zero left
    refine ⟨"mock read failure", ?_⟩
    show d.read.2.result = _
    simp only [read, show d.failingReads = n + 1 from fails]
  state_apply _ d intent := d.state_startApply intent
  failing_apply kind _ d intent := by
    show (match kind, (d.startApply intent).1 with
      | .read, d => d.failingReads
      | .apply, d => d.failingApplies) = _
    cases kind <;> cases left : d.failingApplies <;> simp [startApply, left]
  result_apply _ d intent none := by
    show (d.startApply intent).2.result = _
    simp only [startApply, show d.failingApplies = 0 from none]
  error_apply _ d intent left := by
    obtain ⟨n, fails⟩ := Nat.exists_eq_succ_of_ne_zero left
    refine ⟨"mock apply failure", ?_⟩
    show (d.startApply intent).2.result = _
    simp only [startApply, show d.failingApplies = n + 1 from fails]
  state_commit _ _ := rfl
  failing_commit kind _ _ := by cases kind <;> rfl

/-! ## Deeds -/

/-- What is done with a device. -/
inductive Deed (σ : Type) where
  /-- A read begins and returns. -/
  | read (result : Except EnforcementError OperationalState)
  /-- An apply begins and fails. -/
  | refused (intent : Intent) (error : EnforcementError)
  /-- An apply begins and does not fail. -/
  | begun (intent : Intent)
  /-- An apply that has begun succeeds. -/
  | ended (intent : Intent) (state : OperationalState)
  | set (setting : σ)

namespace Deed

variable {σ : Type}

/-- The call that begins. -/
def kind? : Deed σ → Option CallKind
  | .read _ => some .read
  | .refused _ _ | .begun _ => some .apply
  | _ => none

/-- What a call returns. -/
def result? : Deed σ → Option (Except EnforcementError OperationalState)
  | .read result => some result
  | .refused _ error => some (.error error)
  | .ended _ state => some (.ok state)
  | _ => none

/-- The failure of a call. -/
def error? (deed : Deed σ) : Option EnforcementError :=
  match deed.result? with
  | some (.error error) => some error
  | _ => none

end Deed

/-- A deed, and the device ahead of it and behind it. -/
structure Use (δ σ : Type) where
  before : δ
  deed : Deed σ
  after : δ

/-- A device, with what the applies that have begun and not ended write and return. -/
structure Engaged (δ : Type) where
  device : δ
  pending : List (Intent × OperationalState) := []

namespace Panel

variable {δ σ : Type} [Device δ]

/-- All that can be done with a device. -/
inductive Step (panel : Panel δ σ) (e : Engaged δ) : Deed σ → Engaged δ → Prop where
  | read (now : Tick) :
      Step panel e (.read (Device.read now e.device).2.result)
        { e with device := (Device.read now e.device).1 }
  | refused (now : Tick) (intent : Intent) {error : EnforcementError}
      (failed : (Device.apply now e.device intent).2.result = .error error) :
      Step panel e (.refused intent error)
        { e with device := (Device.apply now e.device intent).1 }
  | begun (now : Tick) (intent : Intent) {state : OperationalState}
      (taken : (Device.apply now e.device intent).2.result = .ok state) :
      Step panel e (.begun intent)
        ⟨(Device.apply now e.device intent).1, (intent, state) :: e.pending⟩
  | ended {intent : Intent} {state : OperationalState}
      {front back : List (Intent × OperationalState)}
      (pending : e.pending = front ++ (intent, state) :: back) :
      Step panel e (.ended intent state) ⟨Device.commit e.device intent, front ++ back⟩
  | set (setting : σ) :
      Step panel e (.set setting) { e with device := panel.set e.device setting }

/-- By these uses, in their order, a device becomes another. -/
inductive Used (panel : Panel δ σ) : Engaged δ → List (Use δ σ) → Engaged δ → Prop where
  | start {e : Engaged δ} : Used panel e [] e
  | next {e e' e'' : Engaged δ} {deed : Deed σ} {uses : List (Use δ σ)}
      (step : panel.Step e deed e') (rest : Used panel e' uses e'') :
      Used panel e (⟨e.device, deed, e'.device⟩ :: uses) e''

/-- The state that a deed writes. -/
def writes? (panel : Panel δ σ) : Deed σ → Option OperationalState
  | .ended intent _ => some intent.state
  | .set setting => panel.written? setting
  | _ => none

/-- The number of failures that a deed orders. -/
def orders? (panel : Panel δ σ) (kind : CallKind) : Deed σ → Option Nat
  | .set setting => panel.ordered? kind setting
  | _ => none

/-- The state that uses have written last, or else the first one. -/
def latest (panel : Panel δ σ) (first : OperationalState) (uses : List (Use δ σ)) :
    OperationalState :=
  (uses.filterMap fun use => panel.writes? use.deed).getLast?.getD first

/-- Calls that begin, of one kind. -/
def callsOf (kind : CallKind) (uses : List (Use δ σ)) : Nat :=
  uses.countP fun use => use.deed.kind? = some kind

omit [Device δ] in
theorem callsOf_cons (kind : CallKind) (before after : δ) (deed : Deed σ)
    (uses : List (Use δ σ)) :
    callsOf kind (⟨before, deed, after⟩ :: uses) =
      callsOf kind uses + if deed.kind? = some kind then 1 else 0 := by
  simp [callsOf, List.countP_cons]

variable {panel : Panel δ σ} {e e' e'' : Engaged δ} {deed : Deed σ} {uses : List (Use δ σ)}
  {kind : CallKind}

/-! ## What a deed does -/

namespace Step

theorem state (h : panel.Step e deed e') :
    panel.state e'.device = (panel.writes? deed).getD (panel.state e.device) := by
  cases h with
  | read now => exact panel.state_read now _
  | refused now intent failed => exact panel.state_apply now _ intent
  | begun now intent taken => exact panel.state_apply now _ intent
  | ended pending => exact panel.state_commit _ _
  | set setting => exact panel.state_set _ setting

/-- A call of the kind uses up one of its failures; others leave them as they are. -/
theorem failing (h : panel.Step e deed e') (kept : panel.orders? kind deed = none) :
    panel.failing kind e'.device =
      panel.failing kind e.device - if deed.kind? = some kind then 1 else 0 := by
  cases h with
  | read now => rw [panel.failing_read]; cases kind <;> rfl
  | refused now intent failed => rw [panel.failing_apply]; cases kind <;> rfl
  | begun now intent taken => rw [panel.failing_apply]; cases kind <;> rfl
  | ended pending => exact panel.failing_commit kind _ _
  | set setting =>
    rw [panel.failing_set, show panel.ordered? kind setting = none from kept]
    rfl

theorem failing_of_orders (h : panel.Step e deed e') {count : Nat}
    (orders : panel.orders? kind deed = some count) : panel.failing kind e'.device = count := by
  cases h with
  | set setting =>
    rw [panel.failing_set, show panel.ordered? kind setting = some count from orders]
    rfl
  | _ => cases orders

/-- A call fails exactly if there is a failure left for it. -/
theorem error?_ne_none_iff (h : panel.Step e deed e') (calls : deed.kind? = some kind) :
    deed.error? ≠ none ↔ 0 < panel.failing kind e.device := by
  cases h with
  | read now =>
    cases calls
    by_cases left : panel.failing .read e.device = 0
    · simp [Deed.error?, Deed.result?, panel.result_read now _ left, left]
    · obtain ⟨reason, failed⟩ := panel.error_read now e.device left
      simp [Deed.error?, Deed.result?, failed, Nat.pos_of_ne_zero left]
  | refused now intent failed =>
    cases calls
    refine iff_of_true nofun (Nat.pos_of_ne_zero fun left => ?_)
    exact nomatch failed.symm.trans (panel.result_apply now _ intent left)
  | begun now intent taken =>
    cases calls
    refine iff_of_false (fun failed => failed rfl) fun left => ?_
    obtain ⟨reason, failed⟩ := panel.error_apply now e.device intent (Nat.ne_of_gt left)
    exact nomatch taken.symm.trans failed
  | ended pending => cases calls
  | set setting => cases calls

/-- A failure is one of the call that fails. -/
theorem error_cases (h : panel.Step e deed e') {error : EnforcementError}
    (failed : deed.error? = some error) :
    (deed.kind? = some .read ∧ ∃ reason, error = .stateRead reason) ∨
      (deed.kind? = some .apply ∧ ∃ reason, error = .apply reason) := by
  have left {kind : CallKind} (calls : deed.kind? = some kind) :
      panel.failing kind e.device ≠ 0 :=
    Nat.ne_of_gt ((h.error?_ne_none_iff calls).mp (failed ▸ nofun))
  cases h with
  | read now =>
    obtain ⟨reason, told⟩ := panel.error_read now e.device (left rfl)
    simp only [Deed.error?, Deed.result?, told, Option.some.injEq] at failed
    exact .inl ⟨rfl, reason, failed.symm⟩
  | refused now intent told =>
    obtain ⟨reason, told'⟩ := panel.error_apply now e.device intent (left rfl)
    cases told.symm.trans told'
    exact .inr ⟨rfl, reason, (Option.some.inj failed).symm⟩
  | _ => cases failed

/-- A read that succeeds returns the state of the device. -/
theorem state_of_read {result : Except EnforcementError OperationalState}
    (h : panel.Step e (.read result) e') {state : OperationalState}
    (succeeds : result = .ok state) : state = panel.state e.device := by
  cases h with
  | read now =>
    by_cases left : panel.failing .read e.device = 0
    · exact (Except.ok.inj ((panel.result_read now _ left).symm.trans succeeds)).symm
    · obtain ⟨reason, failed⟩ := panel.error_read now e.device left
      exact nomatch failed.symm.trans succeeds

/-- What is pending returns what it writes. -/
theorem pending (h : panel.Step e deed e') (sound : ∀ apply ∈ e.pending, apply.2 = apply.1.state) :
    ∀ apply ∈ e'.pending, apply.2 = apply.1.state := by
  cases h with
  | read now => exact sound
  | refused now intent failed => exact sound
  | begun now intent taken =>
    refine List.forall_mem_cons.mpr ⟨?_, sound⟩
    by_cases left : panel.failing .apply e.device = 0
    · exact Except.ok.inj (taken.symm.trans (panel.result_apply now _ intent left))
    · obtain ⟨reason, failed⟩ := panel.error_apply now e.device intent left
      exact nomatch taken.symm.trans failed
  | ended pending =>
    rw [pending] at sound
    intro apply member
    refine sound apply ?_
    rcases List.mem_append.mp member with front | back
    · exact List.mem_append_left _ front
    · exact List.mem_append_right _ (List.mem_cons_of_mem _ back)
  | set setting => exact sound

end Step

/-! ## What uses do -/

namespace Used

variable {ahead behind : List (Use δ σ)} {use : Use δ σ}

theorem append (h : panel.Used e ahead e') (h' : panel.Used e' behind e'') :
    panel.Used e (ahead ++ behind) e'' := by
  induction h with
  | start => exact h'
  | next step rest ih => exact .next step (ih h')

/-- Uses can be cut anywhere. -/
theorem split (h : panel.Used e (ahead ++ behind) e'') :
    ∃ e', panel.Used e ahead e' ∧ panel.Used e' behind e'' := by
  induction ahead generalizing e with
  | nil => exact ⟨e, .start, h⟩
  | cons use rest ih =>
    cases h with
    | next step rest' =>
      obtain ⟨e', before, after⟩ := ih rest'
      exact ⟨e', .next step before, after⟩

/-- A use is a deed done to a device that came about before it. -/
theorem step_taken (h : panel.Used e (ahead ++ use :: behind) e'') :
    ∃ e₁ e₂, panel.Used e ahead e₁ ∧ panel.Step e₁ use.deed e₂ ∧
      use.before = e₁.device ∧ use.after = e₂.device := by
  obtain ⟨e₁, before, rest⟩ := h.split
  cases rest with
  | next step rest => exact ⟨e₁, _, before, step, rfl, rfl⟩

/-- The state of a device is what has been written last. -/
theorem state (h : panel.Used e uses e') :
    panel.state e'.device = panel.latest (panel.state e.device) uses := by
  induction h with
  | start => rfl
  | @next e₁ e₂ e₃ deed uses step rest ih =>
    rw [ih, step.state, latest, latest]
    cases writes : panel.writes? deed with
    | none => rw [List.filterMap_cons_none (by exact writes)]; rfl
    | some written =>
      rw [List.filterMap_cons_some (by exact writes), List.getLast?_cons]
      rfl

theorem pending (h : panel.Used e uses e') (sound : ∀ apply ∈ e.pending, apply.2 = apply.1.state) :
    ∀ apply ∈ e'.pending, apply.2 = apply.1.state := by
  induction h with
  | start => exact sound
  | next step rest ih => exact ih (step.pending sound)

/-- Calls use up the failures, as long as no others are ordered. -/
theorem failing (h : panel.Used e uses e')
    (kept : ∀ use ∈ uses, panel.orders? kind use.deed = none) :
    panel.failing kind e'.device = panel.failing kind e.device - callsOf kind uses := by
  induction h with
  | start => rfl
  | @next e₁ e₂ e₃ deed uses step rest ih =>
    obtain ⟨keptFirst, keptRest⟩ := List.forall_mem_cons.mp kept
    rw [ih keptRest, step.failing keptFirst, callsOf_cons]
    omega

end Used

/-! ## Whole calls -/

/-- A whole call, or a change from outside. -/
inductive Ask (σ : Type) where
  | read
  | apply (intent : Intent)
  | set (setting : σ)

/-- Whole calls one behind the other, with changes between: what they return, and the device. -/
def serve (panel : Panel δ σ) (now : Tick) (d : δ) :
    List (Ask σ) → List (Except EnforcementError OperationalState) × δ
  | [] => ([], d)
  | .read :: rest =>
    let reached := Device.readThrough now d
    let (results, last) := panel.serve reached.now reached.device rest
    (reached.result :: results, last)
  | .apply intent :: rest =>
    let reached := Device.applyThrough now d intent
    let (results, last) := panel.serve reached.now reached.device rest
    (reached.result :: results, last)
  | .set setting :: rest => panel.serve now (panel.set d setting) rest

/-- What calls return, in the order in which they do. -/
def resultsIn (uses : List (Use δ σ)) : List (Except EnforcementError OperationalState) :=
  uses.filterMap fun use => use.deed.result?

/-- A whole apply is one that begins and fails, or one that begins and ends. -/
theorem used_applyThrough (panel : Panel δ σ) (now : Tick) (d : δ) (intent : Intent) :
    ∃ uses : List (Use δ σ),
      panel.Used ⟨d, []⟩ uses ⟨(Device.applyThrough now d intent).device, []⟩ ∧
        resultsIn uses = [(Device.applyThrough now d intent).result] := by
  unfold Device.applyThrough
  cases result : (Device.apply now d intent).2.result with
  | error error =>
    simp only [result]
    exact ⟨_, .next (.refused now intent result) .start, rfl⟩
  | ok state =>
    simp only [result]
    have alone : [(intent, state)] = [] ++ (intent, state) :: [] := rfl
    exact ⟨_, .next (.begun now intent result) (.next (.ended alone) .start), rfl⟩

/-- Whole calls one behind the other are one way to use a device. -/
theorem used_serve (panel : Panel δ σ) (now : Tick) (d : δ) (asks : List (Ask σ)) :
    ∃ uses, panel.Used ⟨d, []⟩ uses ⟨(panel.serve now d asks).2, []⟩ ∧
      resultsIn uses = (panel.serve now d asks).1 := by
  induction asks generalizing now d with
  | nil => exact ⟨[], .start, rfl⟩
  | cons ask rest ih =>
    cases ask with
    | read =>
      obtain ⟨uses, used, results⟩ :=
        ih (Device.readThrough now d).now (Device.readThrough now d).device
      exact ⟨_, .next (.read now) used, congrArg _ results⟩
    | apply intent =>
      obtain ⟨first, applied, result⟩ := panel.used_applyThrough now d intent
      obtain ⟨uses, used, results⟩ :=
        ih (Device.applyThrough now d intent).now (Device.applyThrough now d intent).device
      refine ⟨first ++ uses, applied.append used, ?_⟩
      rw [resultsIn, List.filterMap_append]
      exact congr (congrArg _ result) results
    | set setting =>
      obtain ⟨uses, used, results⟩ := ih now (panel.set d setting)
      exact ⟨_, .next (.set setting) used, results⟩

/-! ## The contract -/

/-- The latest order of failures, or the first one there is, stands at the end of these uses. -/
def OrderedBy (panel : Panel δ σ) (kind : CallKind) (d : δ) (ahead : List (Use δ σ))
    (count : Nat) : Prop :=
  (ahead = [] ∧ count = panel.failing kind d) ∨
    ∃ earlier use, ahead = earlier ++ [use] ∧ panel.orders? kind use.deed = some count

/-- What a device promises to those who use it. -/
structure KeepsContract (panel : Panel δ σ) (d : δ) (uses : List (Use δ σ)) (last : δ) : Prop where
  state : panel.state last = panel.latest (panel.state d) uses
  read : ∀ ahead use behind result, uses = ahead ++ use :: behind → use.deed = .read result →
    panel.state use.after = panel.state use.before ∧
      ∀ state, result = .ok state → state = panel.latest (panel.state d) ahead
  /-- What fails, or has only begun, leaves the state as it is. -/
  unwritten : ∀ use ∈ uses, (use.deed.error? ≠ none ∨ ∃ intent, use.deed = .begun intent) →
    panel.state use.after = panel.state use.before
  ended : ∀ use ∈ uses, ∀ intent state, use.deed = .ended intent state →
    state = intent.state ∧ panel.state use.after = state
  /-- An apply made once more, with nothing written between, leaves the state as it is. -/
  repeated : ∀ ahead use between again behind intent state state',
    uses = ahead ++ use :: (between ++ again :: behind) → use.deed = .ended intent state →
    (∀ other ∈ between, panel.writes? other.deed = none) → again.deed = .ended intent state' →
    panel.state again.after = panel.state use.after ∧
      panel.state again.before = panel.state use.after
  /-- Of the calls behind the latest order, as many fail as were ordered, and these come first. -/
  failing : ∀ kind count ahead between use behind,
    uses = ahead ++ (between ++ use :: behind) → panel.OrderedBy kind d ahead count →
    (∀ other ∈ between, panel.orders? kind other.deed = none) → use.deed.kind? = some kind →
    (use.deed.error? ≠ none ↔ callsOf kind between < count)
  errors : ∀ use ∈ uses, ∀ error, use.deed.error? = some error →
    (use.deed.kind? = some .read ∧ ∃ reason, error = .stateRead reason) ∨
      (use.deed.kind? = some .apply ∧ ∃ reason, error = .apply reason)

/-- The failures left behind the latest order are those ordered. -/
theorem Used.failing_of_orderedBy {d : δ} {ahead : List (Use δ σ)} {count : Nat}
    (h : panel.Used ⟨d, []⟩ ahead e) (ordered : panel.OrderedBy kind d ahead count) :
    panel.failing kind e.device = count := by
  rcases ordered with ⟨rfl, rfl⟩ | ⟨earlier, use, rfl, orders⟩
  · cases h
    rfl
  · obtain ⟨e₁, -, last⟩ := h.split
    cases last with
    | next step rest =>
      cases rest
      exact step.failing_of_orders orders

/-- What fails or has only begun writes nothing. -/
theorem writes?_of_unfinished
    (unfinished : deed.error? ≠ none ∨ ∃ intent, deed = .begun intent) :
    panel.writes? deed = none := by
  cases deed with
  | ended intent state => simp [Deed.error?, Deed.result?] at unfinished
  | set setting => simp [Deed.error?, Deed.result?] at unfinished
  | _ => rfl

/-- In every use of a device that has nothing pending at first, the contract is kept. -/
theorem Used.keepsContract {d : δ} (h : panel.Used ⟨d, []⟩ uses e) :
    panel.KeepsContract d uses e.device where
  state := h.state
  read := by
    rintro ahead use behind result rfl deed
    obtain ⟨e₁, e₂, before, step, atFirst, atLast⟩ := h.step_taken
    rw [deed] at step
    rw [atFirst, atLast]
    refine ⟨step.state, fun state succeeds => ?_⟩
    rw [step.state_of_read succeeds, before.state]
  unwritten := by
    intro use member unfinished
    obtain ⟨ahead, behind, rfl⟩ := List.append_of_mem member
    obtain ⟨e₁, e₂, -, step, atFirst, atLast⟩ := h.step_taken
    rw [atFirst, atLast, step.state, writes?_of_unfinished unfinished]
    rfl
  ended := by
    intro use member intent state deed
    obtain ⟨ahead, behind, rfl⟩ := List.append_of_mem member
    obtain ⟨e₁, e₂, before, step, -, atLast⟩ := h.step_taken
    rw [deed] at step
    have returned : state = intent.state := by
      cases step with
      | ended pending =>
        refine before.pending nofun (intent, state) ?_
        rw [pending]
        exact List.mem_append_right _ List.mem_cons_self
    rw [atLast, returned]
    exact ⟨rfl, step.state⟩
  repeated := by
    rintro ahead use between again behind intent state state' rfl deed kept deed'
    -- Nothing is written between, so the second apply finds what it writes.
    obtain ⟨e₁, before, rest⟩ := h.split
    cases rest with
    | @next _ e₂ _ _ _ step rest =>
      cases deed
      obtain ⟨e₃, e₄, during, step', atFirst, atLast⟩ := rest.step_taken
      rw [deed'] at step'
      have unwritten : between.filterMap (fun other => panel.writes? other.deed) = [] :=
        List.filterMap_eq_nil_iff.mpr kept
      rw [atFirst, atLast, step'.state, step.state, during.state, latest, unwritten, step.state]
      exact ⟨rfl, rfl⟩
  failing := by
    rintro kind count ahead between use behind rfl ordered kept calls
    -- What is left for the call is what was ordered less the calls between.
    obtain ⟨e₁, before, rest⟩ := h.split
    obtain ⟨e₂, e₃, during, step, -, -⟩ := rest.step_taken
    rw [step.error?_ne_none_iff calls, during.failing kept, before.failing_of_orderedBy ordered]
    exact Nat.sub_pos_iff_lt
  errors := by
    intro use member error failed
    obtain ⟨ahead, behind, rfl⟩ := List.append_of_mem member
    obtain ⟨e₁, e₂, -, step, -, -⟩ := h.step_taken
    exact step.error_cases failed

end Panel

/-! ## Counted calls -/

namespace BenchDevice

/-- A device on the bench counts the calls that begin. -/
theorem calls_of_step {e e' : Engaged BenchDevice} {deed : Deed Setting}
    (h : panel.Step e deed e') :
    e'.device.readCalls = e.device.readCalls + (if deed.kind? = some .read then 1 else 0) ∧
      e'.device.applyCalls = e.device.applyCalls + if deed.kind? = some .apply then 1 else 0 := by
  cases h with
  | read now =>
    show e.device.read.1.readCalls = _ ∧ e.device.read.1.applyCalls = _
    cases left : e.device.failingReads <;> simp [read, left, Deed.kind?]
  | refused now intent failed =>
    show (e.device.startApply intent).1.readCalls = _ ∧
      (e.device.startApply intent).1.applyCalls = _
    cases left : e.device.failingApplies <;> simp [startApply, left, Deed.kind?]
  | begun now intent taken =>
    show (e.device.startApply intent).1.readCalls = _ ∧
      (e.device.startApply intent).1.applyCalls = _
    cases left : e.device.failingApplies <;> simp [startApply, left, Deed.kind?]
  | ended pending => exact ⟨rfl, rfl⟩
  | set setting => cases setting <;> exact ⟨rfl, rfl⟩

theorem calls_of_used {e e' : Engaged BenchDevice} {uses : List (Use BenchDevice Setting)}
    (h : panel.Used e uses e') :
    e'.device.readCalls = e.device.readCalls + Panel.callsOf .read uses ∧
      e'.device.applyCalls = e.device.applyCalls + Panel.callsOf .apply uses := by
  induction h with
  | start => exact ⟨rfl, rfl⟩
  | next step rest ih =>
    obtain ⟨reads, applies⟩ := calls_of_step step
    rw [ih.1, ih.2, reads, applies, Panel.callsOf_cons, Panel.callsOf_cons]
    omega

end BenchDevice

/--
Both devices keep the contract, from every first device on and whatever is done with them. A read
leaves the state as it is and, if it succeeds, returns what was written last; an apply that succeeds
returns the intended state and leaves the device in it, and made once more changes nothing; what
fails writes nothing. As many calls fail as were ordered last, the next ones, and none behind them.
The device on the bench counts the calls that begin. All this holds of whole calls one behind the
other, and where they overlap or are given up.
-/
theorem devices_keep_contract :
    (∀ (d : SimulatedDevice) uses e, SimulatedDevice.panel.Used ⟨d, []⟩ uses e →
      SimulatedDevice.panel.KeepsContract d uses e.device) ∧
    (∀ (d : BenchDevice) uses e, BenchDevice.panel.Used ⟨d, []⟩ uses e →
      BenchDevice.panel.KeepsContract d uses e.device ∧
      e.device.readCalls = d.readCalls + Panel.callsOf .read uses ∧
      e.device.applyCalls = d.applyCalls + Panel.callsOf .apply uses) ∧
    (∀ now (d : SimulatedDevice) asks, ∃ uses,
      SimulatedDevice.panel.Used ⟨d, []⟩ uses ⟨(SimulatedDevice.panel.serve now d asks).2, []⟩ ∧
      Panel.resultsIn uses = (SimulatedDevice.panel.serve now d asks).1) ∧
    ∀ now (d : BenchDevice) asks, ∃ uses,
      BenchDevice.panel.Used ⟨d, []⟩ uses ⟨(BenchDevice.panel.serve now d asks).2, []⟩ ∧
      Panel.resultsIn uses = (BenchDevice.panel.serve now d asks).1 := by
  refine ⟨fun d uses e used => used.keepsContract, fun d uses e used => ?_,
    SimulatedDevice.panel.used_serve, BenchDevice.panel.used_serve⟩
  obtain ⟨reads, applies⟩ := BenchDevice.calls_of_used used
  exact ⟨used.keepsContract, reads, applies⟩

/-- An apply is refused, and the next one takes its time, in which somebody else sets the state. -/
theorem contract_of_slow_apply :
    let d : BenchDevice := { name := "router1", state := .drifted, applyDelay := .ofSecs 5 }
    ∃ uses e, BenchDevice.panel.Used ⟨d, []⟩ uses e ∧
      Panel.resultsIn uses = [.error (.apply "mock apply failure"), .ok ⟨"ssh", 22, false⟩,
        .ok Intent.sample.state, .ok Intent.sample.state] ∧
      BenchDevice.panel.KeepsContract d uses e.device ∧ e.device.readCalls = 2 ∧
      e.device.applyCalls = 2 := by
  intro d
  have pending : [(Intent.sample, Intent.sample.state)] =
      [] ++ (Intent.sample, Intent.sample.state) :: [] := rfl
  have used : ∃ uses e, BenchDevice.panel.Used ⟨d, []⟩ uses e ∧
      Panel.resultsIn uses = [.error (.apply "mock apply failure"), .ok ⟨"ssh", 22, false⟩,
        .ok Intent.sample.state, .ok Intent.sample.state] ∧
      e.device.readCalls = 2 ∧ e.device.applyCalls = 2 :=
    ⟨_, _, .next (.set (.failingApplies 1)) <| .next (.refused 0 .sample rfl) <|
      .next (.begun 0 .sample rfl) <| .next (.set (.state ⟨"ssh", 22, false⟩)) <|
      .next (.read 2000) <| .next (.ended pending) <| .next (.read 5000) .start, rfl, rfl, rfl⟩
  obtain ⟨uses, e, used, results, reads, applies⟩ := used
  have contract := (devices_keep_contract.2.1 d uses e used).1
  exact ⟨uses, e, used, results, contract, reads, applies⟩

end ClosedLoop
