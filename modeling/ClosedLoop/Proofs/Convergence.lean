import ClosedLoop.Proofs.Life
import ClosedLoop.Sample

/-!
# Convergence

The state of a device is what was written to it last: by somebody else, or by an apply of its loop.
Behind an apply the loop finds its device compliant, until somebody else writes; so each apply that
succeeds is owed to a write from outside, but for one that the first state may be in need of.

* `Quiet` — an iteration that reads behind an apply starts none
* `Foreign` — what a drift that is found says of the writes before it
* `Tracks` — what is so in every life, by what has been written
* `applies_bounded_by_outside_writes` — the latest write, the peace behind an apply, the bound
-/

namespace ClosedLoop

/-! ## Reads behind an apply -/

/-- A list that is cut at its latest read is cut ahead of what has none. -/
theorem cut_of_no_read {notes more ahead work : List Note}
    (cut : notes ++ more = ahead ++ .did .read :: work)
    (noRead : ∀ note ∈ more, note.isRead = false) :
    ∃ front, notes = ahead ++ .did .read :: front ∧ work = front ++ more := by
  rcases List.append_eq_append_iff.mp cut with ⟨middle, -, cut'⟩ | ⟨middle, rfl, cut'⟩
  · have read : Note.isRead (.did .read) = false := noRead _ (cut' ▸ by simp)
    cases read
  · cases middle with
    | nil =>
      rw [List.nil_append] at cut'
      have read : Note.isRead (.did .read) = false := noRead _ (cut' ▸ by simp)
      cases read
    | cons first rest =>
      cases cut'
      exact ⟨rest, rfl, rfl⟩

/-- The latest read of these notes stands behind the first and ahead of the second of them. -/
structure ReadAt (notes ahead work : List Note) : Prop where
  cut : notes = ahead ++ .did .read :: work
  latest : ∀ note ∈ work, note.isRead = false

/-- The latest read has come behind an apply that nothing had been written behind. -/
def ReadsCommitted (notes : List Note) : Prop :=
  ∃ ahead work, ReadAt notes ahead work ∧ latestWrite ahead = some .committed

theorem not_readsCommitted_append {notes more : List Note} (h : ¬ReadsCommitted notes)
    (noRead : ∀ note ∈ more, note.isRead = false) : ¬ReadsCommitted (notes ++ more) := by
  rintro ⟨ahead, work, ⟨cut, latest⟩, committed⟩
  obtain ⟨front, rfl, rfl⟩ := cut_of_no_read cut noRead
  exact h ⟨ahead, front, ⟨rfl, fun note member => latest note (by simp [member])⟩, committed⟩

theorem latestWrite_of_readsCommitted_concat {notes : List Note}
    (h : ReadsCommitted (notes ++ [.did .read])) : latestWrite notes = some .committed := by
  obtain ⟨ahead, work, ⟨cut, latest⟩, committed⟩ := h
  rcases List.eq_nil_or_concat work with rfl | ⟨front, last, rfl⟩
  · rwa [(List.append_inj' cut rfl).1]
  · rw [List.concat_eq_append, ← List.cons_append, ← List.append_assoc] at cut
    have read : Note.isRead last = false := latest last (by simp)
    rw [← (List.cons.inj (List.append_inj' cut rfl).2).1] at read
    cases read

/-! ## Peace -/

/--
No apply is started, and no outcome is told but of an iteration without one: the device is
compliant, unless the read has failed.
-/
def Note.Rests (work : List Note) : Note → Prop
  | .did effect => effect.isApply = false ∧ ∀ outcome, effect.outcome? = some outcome →
      outcome = .compliant ∨ (outcome = .stateUnknown ∧ ∃ error, .answered (.error error) ∈ work)
  | _ => True

/-- An iteration that reads behind an apply, nothing having been written since, starts none. -/
def Quiet : List Note → Prop :=
  Throughout fun earlier note => ∀ ahead work, ReadAt earlier ahead work →
    latestWrite ahead = some .committed → note.Rests work

namespace Quiet

variable {notes more : List Note}

theorem append_rests (h : Quiet notes) (rests : ∀ note ∈ more, ∀ work, note.Rests work) :
    Quiet (notes ++ more) := by
  refine Throughout.append h ?_
  rintro front note behind rfl ahead work - -
  exact rests note (by simp) work

theorem append_foreign (h : Quiet notes) (foreign : ¬ReadsCommitted notes)
    (noRead : ∀ note ∈ more, note.isRead = false) : Quiet (notes ++ more) := by
  refine Throughout.append h ?_
  rintro front note behind rfl ahead work at_ committed
  refine absurd ⟨ahead, work, at_, committed⟩ (not_readsCommitted_append foreign ?_)
  exact fun note member => noRead note (List.mem_append_left _ member)

/-- What comes behind a failed read in its iteration. -/
theorem append_unread {error : EnforcementError} (h : Quiet (notes ++ [.answered (.error error)]))
    (noRead : ∀ note ∈ more, note.isRead = false)
    (rests : ∀ note ∈ more, ∀ work, .answered (.error error) ∈ work → note.Rests work) :
    Quiet (notes ++ [.answered (.error error)] ++ more) := by
  refine Throughout.append h ?_
  rintro front note behind rfl ahead work at_ -
  rw [List.append_assoc] at at_
  have later : ∀ note ∈ [Note.answered (.error error)] ++ front, note.isRead = false := by
    intro note member
    rcases List.mem_append.mp member with answer | told
    · cases List.mem_singleton.mp answer
      rfl
    · exact noRead note (List.mem_append_left _ told)
  obtain ⟨middle, -, rfl⟩ := cut_of_no_read at_.cut later
  exact rests note (by simp) _ (by simp)

end Quiet

/-! ## Drifts -/

/-- The state of the device holds what no apply of the loop has written. -/
def isFresh (first : OperationalState) (intent : Intent) : Option Write → Bool
  | none => first ≠ intent.state
  | some (.outside _) => true
  | some .committed => false

/-- Where the state is not the intended one, it is not from an apply. -/
theorem isFresh_of_ne {first : OperationalState} {intent : Intent} {write : Option Write}
    (drifted : write.elim first (Write.state intent) ≠ intent.state) :
    isFresh first intent write = true := by
  cases write with
  | none => exact decide_eq_true drifted
  | some write =>
    cases write with
    | outside state => rfl
    | committed => exact absurd rfl drifted

/-- What the latest read has found is not from an apply, nor is what the device holds by now. -/
structure Foreign (first : OperationalState) (intent : Intent) (notes : List Note) : Prop where
  fresh : isFresh first intent (latestWrite notes) = true
  read : ¬ReadsCommitted notes

namespace Foreign

variable {first : OperationalState} {intent : Intent} {notes more : List Note}

theorem append (h : Foreign first intent notes) (unwritten : Unwritten more)
    (noRead : ∀ note ∈ more, note.isRead = false) : Foreign first intent (notes ++ more) where
  fresh := by
    rw [latestWrite_append unwritten]
    exact h.fresh
  read := not_readsCommitted_append h.read noRead

theorem append_outside (h : Foreign first intent notes) (state : OperationalState) :
    Foreign first intent (notes ++ [.wrote (.outside state)]) where
  fresh := by
    rw [latestWrite_concat]
    rfl
  read := not_readsCommitted_append h.read (by simp)

/-- A read finds a drift where the state is not the intended one. -/
theorem of_read
    (drifted : (latestWrite notes).elim first (Write.state intent) ≠ intent.state) :
    Foreign first intent (notes ++ [.did .read]) where
  fresh := by
    have same : latestWrite (notes ++ [.did .read]) = latestWrite notes :=
      latestWrite_append (unwritten_noted [.read])
    rw [same]
    exact isFresh_of_ne drifted
  read := by
    intro committed
    rw [latestWrite_of_readsCommitted_concat committed] at drifted
    exact drifted rfl

end Foreign

/-! ## What is so in every life -/

open Timeline (Due)

/-- What is so at a point of an iteration: a drift that is found is not from an apply. -/
def Point.Tracked (first : OperationalState) (intent : Intent) (notes : List Note) (now : Tick)
    (call : Option Call) : Point → Prop
  | .reading _ => ∃ called, call = some called ∧ ∀ state, called.result = .ok state →
      state ≠ intent.state → Foreign first intent notes
  | .applying _ limit => now ≤ limit ∧ Foreign first intent notes
  | _ => True

theorem Point.Tracked.imp {first : OperationalState} {intent : Intent}
    {notes notes' : List Note} {now : Tick} {call : Option Call} {point : Point}
    (h : point.Tracked first intent notes now call)
    (keeps : Foreign first intent notes → Foreign first intent notes') :
    point.Tracked first intent notes' now call := by
  cases point with
  | reading cause =>
    obtain ⟨called, at_, found⟩ := h
    exact ⟨called, at_, fun state read drifted => keeps (found state read drifted)⟩
  | applying cause limit => exact ⟨h.1, keeps h.2⟩
  | _ => trivial

theorem Point.tracked_of_free {first : OperationalState} {intent : Intent} {notes : List Note}
    {now : Tick} {call : Option Call} {point : Point} (free : point.cause? = none) :
    point.Tracked first intent notes now call := by
  cases point with
  | reading cause => cases free
  | applying cause limit => cases free
  | _ => trivial

/-- The accounts of a loop and its device: what is held, and what has been written. -/
structure Accounts (first : OperationalState) (intent : Intent) (notes : List Note)
    (device : BenchDevice) (l : Loop) : Prop where
  intended : l.intent = intent
  state : device.state = (latestWrite notes).elim first (Write.state intent)
  applies : l.summary.applies = notes.countP Note.isCommit
  bound : notes.countP Note.isCommit + (isFresh first intent (latestWrite notes)).toNat ≤
    (decide (first ≠ intent.state)).toNat + notes.countP Note.isOutside
  quiet : Quiet notes

/-- A timeline is as its notes say. -/
structure Tracks (first : OperationalState) (intent : Intent) (notes : List Note)
    (t : Timeline BenchDevice) : Prop where
  accounts : Accounts first intent notes t.device t.loop
  point : t.loop.point.Tracked first intent notes t.now t.call

variable {first : OperationalState} {intent : Intent} {notes : List Note}

namespace Accounts

variable {device device' : BenchDevice} {l l' : Loop} {effects : List Effect} {more : List Note}

/-- What is no write. -/
theorem append (h : Accounts first intent notes device l) (unwritten : Unwritten more)
    (quiet : Quiet (notes ++ more)) (intended : l'.intent = l.intent)
    (applies : l'.summary.applies = l.summary.applies) (state : device'.state = device.state) :
    Accounts first intent (notes ++ more) device' l' where
  intended := intended.trans h.intended
  state := by
    rw [latestWrite_append unwritten, state]
    exact h.state
  applies := by
    rw [countP_isCommit_append unwritten, applies]
    exact h.applies
  bound := by
    rw [latestWrite_append unwritten, countP_isCommit_append unwritten,
      countP_isOutside_append unwritten]
    exact h.bound
  quiet := quiet

theorem append_idle (h : Accounts first intent notes device l) (same : Loop.SameBooks l l')
    (idle : Idle effects) (state : device'.state = device.state) :
    Accounts first intent (notes ++ noted effects) device' l' := by
  refine h.append (unwritten_noted effects) ?_ same.intent (congrArg Summary.applies same.summary)
    state
  refine h.quiet.append_rests (forall_mem_noted fun effect member work => ?_)
  refine ⟨(Effect.not_call_of_isIdle (idle effect member)).2.2, fun outcome told => ?_⟩
  exact nomatch (Effect.of_isIdle (idle effect member)).2.2.1.symm.trans told

/-- A read returns. -/
theorem append_answered (h : Accounts first intent notes device l)
    (result : Except EnforcementError OperationalState) :
    Accounts first intent (notes ++ [.answered result]) device l :=
  h.append (unwritten_answered result) (h.quiet.append_rests (by simp [Note.Rests])) rfl rfl rfl

/-- A write from outside. -/
theorem append_outside (h : Accounts first intent notes device l) (state : OperationalState)
    (written : device'.state = state) :
    Accounts first intent (notes ++ [.wrote (.outside state)]) device' l where
  intended := h.intended
  state := by
    rw [latestWrite_concat]
    exact written
  applies := by
    rw [List.countP_append]
    exact h.applies
  bound := by
    have bound := h.bound
    rw [latestWrite_concat, List.countP_append, List.countP_append]
    show _ + 0 + 1 ≤ _ + (_ + 1)
    omega
  quiet := h.quiet.append_rests (by simp [Note.Rests])

/-- What is told of an iteration that writes nothing. -/
theorem append_told (h : Accounts first intent notes device l) {cause : Cause} {verdict : Verdict}
    (quiet : Quiet (notes ++ noted (l.told cause verdict)))
    (unapplied : verdict.outcome ≠ .converged) :
    Accounts first intent (notes ++ noted (l.told cause verdict)) device (l.judged verdict) := by
  refine h.append (unwritten_noted _) quiet Loop.judged_intent ?_ rfl
  cases verdict with
  | applied state => exact absurd rfl unapplied
  | _ => rfl

/-- What is told of an iteration whose apply has succeeded, and written. -/
theorem append_applied (h : Accounts first intent notes device l) (cause : Cause)
    {result : OperationalState} (foreign : Foreign first intent notes)
    (written : device'.state = intent.state) :
    Accounts first intent (notes ++ [.wrote .committed] ++ noted (l.told cause (.applied result)))
      device' (l.judged (.applied result)) := by
  have unwritten := unwritten_noted (l.told cause (.applied result))
  have read : ¬ReadsCommitted (notes ++ [.wrote .committed]) :=
    not_readsCommitted_append foreign.read (by simp)
  refine ⟨h.intended, ?_, ?_, ?_, ?_⟩
  · rw [latestWrite_append unwritten, latestWrite_concat]
    exact written
  · rw [countP_isCommit_append unwritten, List.countP_append]
    exact congrArg (· + 1) h.applies
  · have bound := h.bound
    rw [foreign.fresh] at bound
    rw [latestWrite_append unwritten, latestWrite_concat, countP_isCommit_append unwritten,
      countP_isOutside_append unwritten, List.countP_append, List.countP_append]
    exact bound
  · exact (h.quiet.append_rests (by simp [Note.Rests])).append_foreign read isRead_of_mem_noted_told

end Accounts

namespace Tracks

variable {t : Timeline BenchDevice} {l : Loop}

/-- Between two iterations a loop goes on as its notes say. -/
theorem of_proceeds {result : Loop × List Effect} (h : Accounts first intent notes t.device l)
    (proceeds : l.Proceeds result) (loop : t.loop = result.1) :
    Tracks first intent (notes ++ noted result.2) (t.performAll result.2) := by
  cases proceeds with
  | rests same free idle =>
    refine ⟨?_, Point.tracked_of_free (by rw [Timeline.performAll_loop, loop]; exact free)⟩
    rw [Timeline.performAll_loop, loop]
    exact h.append_idle same idle (congrArg _ (Timeline.performAll_idle idle).1)
  | @begins l' effects cause same idle =>
    obtain ⟨device, -⟩ := Timeline.performAll_idle (t := t) idle
    rw [Timeline.performAll_append, noted, List.map_append, ← List.append_assoc]
    generalize called : t.performAll effects = u at device
    have loop' : (u.performAll (l'.startIteration cause).2).loop = (l'.startIteration cause).1 := by
      rw [Timeline.performAll_loop, ← called, Timeline.performAll_loop, loop]
    have accounts : Accounts first intent (notes ++ noted effects) u.device l' :=
      h.append_idle same idle (congrArg _ device)
    refine ⟨?_, ?_⟩
    · rw [loop']
      refine accounts.append (unwritten_noted _) (accounts.quiet.append_rests ?_) rfl rfl
        (BenchDevice.state_read u.device)
      simp [Note.Rests, Loop.startIteration]
    · rw [loop']
      refine ⟨_, rfl, fun state read drifted => ?_⟩
      have saw : state = u.device.state := BenchDevice.eq_of_read read
      rw [saw, accounts.state,
        ← latestWrite_append (unwritten_noted [.report (.iteration _)])] at drifted
      have foreign := Foreign.of_read drifted
      rw [List.append_assoc] at foreign
      exact foreign

/-- The end of an iteration, and what comes behind it. -/
theorem of_conclude {cause : Cause} {verdict : Verdict}
    (h : Accounts first intent (notes ++ noted (l.told cause verdict)) t.device (l.judged verdict))
    (loop : t.loop = (l.conclude t.now cause verdict).1) :
    Tracks first intent (notes ++ noted (l.conclude t.now cause verdict).2)
      (t.performAll (l.conclude t.now cause verdict).2) := by
  have device : (t.performAll (l.told cause verdict)).device = t.device :=
    (Timeline.performAll_of_quiet fun effect member => Loop.isCall_of_mem_told member).1
  rw [Loop.conclude_eq] at loop ⊢
  rw [Timeline.performAll_append, noted, List.map_append, ← List.append_assoc]
  exact of_proceeds (device ▸ h) (Loop.proceeds_goOn cause)
    ((Timeline.performAll_loop _).trans loop)

theorem feed_of_judges {stimulus : Stimulus} {cause : Cause} {verdict : Verdict}
    (judges : t.loop.Judges t.now stimulus cause verdict)
    (h : Accounts first intent (notes ++ noted (t.loop.told cause verdict)) t.device
      (t.loop.judged verdict)) :
    Tracks first intent (notes ++ noted (t.since (t.feed stimulus))) (t.feed stimulus) := by
  rw [Timeline.feed_of_step (Loop.step_of_judges judges), Timeline.since_performAll]
  exact of_conclude (t := { t with loop := (t.loop.conclude t.now cause verdict).1 }) h rfl

/-- Between two iterations, whatever the loop is given. -/
theorem feed_of_free (h : Accounts first intent notes t.device t.loop)
    (free : t.loop.point.cause? = none) (stimulus : Stimulus) :
    Tracks first intent (notes ++ noted (t.since (t.feed stimulus))) (t.feed stimulus) := by
  rcases t.feed_cases stimulus with same | ⟨loop, effects, taken, fed⟩
  · rw [same, Timeline.since_self, noted, List.map_nil, List.append_nil]
    exact ⟨h, Point.tracked_of_free free⟩
  · rw [fed, Timeline.since_performAll]
    exact of_proceeds (t := { t with loop }) h ((Loop.transition_of_step taken).proceeds free) rfl

/-- What others do to a loop at any time. -/
theorem feed {stimulus : Stimulus} (h : Tracks first intent notes t)
    (outside : stimulus.isOutside = true) :
    Tracks first intent (notes ++ noted (t.since (t.feed stimulus))) (t.feed stimulus) := by
  cases busy : t.loop.point.cause? with
  | none => exact feed_of_free h.accounts busy stimulus
  | some cause =>
    rcases t.feed_cases stimulus with same | ⟨loop, effects, taken, fed⟩
    · rw [same, Timeline.since_self, noted, List.map_nil, List.append_nil]
      exact h
    · obtain ⟨same, point, idle, -⟩ := (Loop.transition_of_step taken).outside outside busy
      obtain ⟨device, call⟩ := Timeline.performAll_idle (t := { t with loop }) idle
      rw [fed, Timeline.since_performAll]
      refine ⟨?_, ?_⟩
      · rw [Timeline.performAll_loop]
        exact h.accounts.append_idle same idle (congrArg _ device)
      · rw [Timeline.performAll_loop, Timeline.performAll_now, call, point]
        refine h.point.imp fun foreign => foreign.append (unwritten_noted effects) ?_
        exact forall_mem_noted fun effect member =>
          (Effect.not_call_of_isIdle (idle effect member)).1

/-- A read fails. -/
theorem feed_unread {cause : Cause} {error : EnforcementError}
    (h : Accounts first intent notes t.device t.loop) (reading : t.loop.point = .reading cause) :
    Tracks first intent (notes ++ [.answered (.error error)] ++
        noted (t.since (t.feed (.readAnswered (.error error)))))
      (t.feed (.readAnswered (.error error))) := by
  have answered := h.append_answered (.error error)
  refine feed_of_judges (.unread reading) (answered.append_told ?_ nofun)
  refine answered.quiet.append_unread isRead_of_mem_noted_told
    (forall_mem_noted fun effect member work failed => ?_)
  refine ⟨(Effect.of_not_isCall (Loop.isCall_of_mem_told member)).2, fun outcome told => ?_⟩
  exact .inr ⟨Loop.outcome?_of_mem_told member told, error, failed⟩

/-- A read succeeds. -/
theorem feed_observed {cause : Cause} {observed : OperationalState}
    (h : Accounts first intent notes t.device t.loop) (reading : t.loop.point = .reading cause)
    (found : observed ≠ intent.state → Foreign first intent notes) :
    Tracks first intent (notes ++ [.answered (.ok observed)] ++
        noted (t.since (t.feed (.readAnswered (.ok observed)))))
      (t.feed (.readAnswered (.ok observed))) := by
  have answered := h.append_answered (.ok observed)
  cases compliant : isCompliant t.loop.intent observed with
  | true =>
    refine feed_of_judges (.compliant reading compliant) (answered.append_told ?_ nofun)
    refine answered.quiet.append_rests (forall_mem_noted fun effect member work => ?_)
    refine ⟨(Effect.of_not_isCall (Loop.isCall_of_mem_told member)).2, fun outcome told => ?_⟩
    exact .inl (Loop.outcome?_of_mem_told member told)
  | false =>
    have drifted : observed ≠ intent.state :=
      h.intended ▸ Loop.ne_state_of_not_compliant compliant
    have foreign : Foreign first intent (notes ++ [.answered (.ok observed)]) :=
      (found drifted).append (unwritten_answered _) (by simp)
    rw [Timeline.feed_of_step (Loop.step_of_drifted reading compliant), Timeline.since_performAll]
    refine ⟨?_, ?_⟩
    · rw [Timeline.performAll_loop]
      exact answered.append (unwritten_noted _)
        (answered.quiet.append_foreign foreign.read (by simp)) rfl rfl
        (BenchDevice.state_startApply _ _)
    · rw [Timeline.performAll_loop]
      exact ⟨Tick.le_sleepEnd _ _, foreign.append (unwritten_noted _) (by simp)⟩

/-- The device answers a read. -/
theorem answer_of_reading {cause : Cause} (h : Accounts first intent notes t.device t.loop)
    (reading : t.loop.point = .reading cause) (call : Call)
    (found : ∀ state, call.result = .ok state → state ≠ intent.state →
      Foreign first intent notes) :
    Tracks first intent
      (notes ++ ((Due.answer call).notes t.loop.point ++ noted (t.since (t.answer call))))
      (t.answer call) := by
  obtain ⟨due, result⟩ := call
  simp only [Timeline.answer, Due.notes, reading]
  rw [← List.append_assoc]
  cases result with
  | error error => exact feed_unread (t := { t with call := none }) h reading
  | ok state => exact feed_observed (t := { t with call := none }) h reading (found state rfl)

/-- An apply fails, by the device or by its limit. -/
theorem feed_of_failed {stimulus : Stimulus} {cause : Cause} {error : EnforcementError}
    (h : Accounts first intent notes t.device t.loop) (foreign : Foreign first intent notes)
    (judges : t.loop.Judges t.now stimulus cause (.failed error)) :
    Tracks first intent (notes ++ noted (t.since (t.feed stimulus))) (t.feed stimulus) :=
  feed_of_judges judges
    (h.append_told (h.quiet.append_foreign foreign.read isRead_of_mem_noted_told) nofun)

/-- The device answers an apply, and has written if it has succeeded. -/
theorem answer_of_applying {cause : Cause} {limit : Tick}
    (h : Accounts first intent notes t.device t.loop) (foreign : Foreign first intent notes)
    (applying : t.loop.point = .applying cause limit) (inTime : t.now ≤ limit) (call : Call) :
    Tracks first intent
      (notes ++ ((Due.answer call).notes t.loop.point ++ noted (t.since (t.answer call))))
      (t.answer call) := by
  obtain ⟨due, result⟩ := call
  cases result with
  | error error =>
    simp only [Timeline.answer, Due.notes, applying, List.nil_append]
    exact feed_of_failed (t := { t with call := none }) h foreign (.failed applying inTime)
  | ok state =>
    simp only [Timeline.answer, Due.notes, applying]
    rw [← List.append_assoc]
    have written : Device.commit t.device t.loop.intent =
        { t.device with state := intent.state } := by
      rw [h.intended]
      rfl
    rw [written]
    exact feed_of_judges
      (t := { t with call := none, device := { t.device with state := intent.state } })
      (.applied applying inTime) (h.append_applied cause foreign rfl)

/-- Time passes, and not past the limit of an apply. -/
theorem pass (h : Tracks first intent notes t) {now : Tick}
    (inTime : ∀ messageFirst due what, t.next? messageFirst = some (due, what) →
      now ≤ max t.now due) : Tracks first intent notes { t with now } := by
  refine ⟨h.accounts, ?_⟩
  have point := h.point
  show t.loop.point.Tracked first intent notes now t.call
  cases at_ : t.loop.point with
  | applying cause limit =>
    rw [at_] at point
    obtain ⟨due, what, next, early⟩ := Timeline.exists_next?_of_applying at_ fun _ => false
    exact ⟨Nat.le_trans (inTime _ due what next) (Nat.max_le.mpr ⟨point.1, early⟩), point.2⟩
  | reading cause =>
    rw [at_] at point
    exact point
  | _ => trivial

/-- What is due happens. -/
theorem happen {messageFirst : Tick → Bool} {due : Tick} {what : Due}
    (h : Tracks first intent notes t) (next : t.next? messageFirst = some (due, what)) :
    Tracks first intent
      (notes ++ (what.notes t.loop.point ++
        noted (t.since ({ t with now := max t.now due }.happen what))))
      ({ t with now := max t.now due }.happen what) := by
  have point := h.point
  rcases Timeline.next?_cases next with ⟨cause, call, reading, called, rfl⟩ |
    ⟨cause, limit, applying, early, ⟨rfl, rfl⟩ | ⟨call, called, rfl⟩⟩ | ⟨free, rfl | rfl⟩
  · rw [reading, called] at point
    obtain ⟨call', same, found⟩ := point
    cases same
    exact answer_of_reading (t := { t with now := max t.now due }) h.accounts reading call found
  · rw [applying] at point
    exact feed_of_failed (t := { t with now := max t.now due, call := none }) h.accounts point.2
      (.timedOut applying (Nat.le_max_right _ _))
  · rw [applying] at point
    have still : max t.now due ≤ limit := Nat.max_le.mpr ⟨point.1, early⟩
    exact answer_of_applying (t := { t with now := max t.now due }) h.accounts point.2 applying
      still call
  · exact feed_of_free (t := { t with now := max t.now due, call := none }) h.accounts free _
  · exact feed_of_free (t := { t with now := max t.now due }) h.accounts free _

/-- A change from outside, of the state or of what the calls to come meet. -/
theorem change (h : Tracks first intent notes t) (setting : BenchDevice.Setting) :
    Tracks first intent (notes ++ setting.notes) { t with device := t.device.set setting } := by
  -- Only a new state is a write; the others leave the state as it is.
  have still {device : BenchDevice} (state : device.state = t.device.state) :
      Tracks first intent (notes ++ noted []) { t with device } :=
    ⟨h.accounts.append_idle (.refl _) idle_nil state, h.point.imp fun foreign =>
      foreign.append nofun nofun⟩
  cases setting with
  | state written =>
    exact ⟨h.accounts.append_outside written rfl, h.point.imp fun foreign =>
      foreign.append_outside written⟩
  | failingReads count => exact still rfl
  | failingApplies count => exact still rfl
  | applyDelay delay => exact still rfl

theorem create (device : BenchDevice) (intent : Intent) (options : LoopOptions) :
    Tracks device.state intent [] (Timeline.create device intent options) where
  accounts := by
    refine ⟨rfl, rfl, rfl, ?_, throughout_nil⟩
    show 0 + (decide (device.state ≠ intent.state)).toNat ≤ _ + 0
    exact Nat.le_of_eq (Nat.zero_add _)
  point := trivial

/-- Whatever becomes of a timeline is as its notes say. -/
theorem of_life {u : Timeline BenchDevice} (h : Tracks first intent [] t) (life : Life t notes u) :
    Tracks first intent notes u := by
  induction life with
  | start => exact h
  | plan earlier script ih => exact ⟨ih.accounts, ih.point⟩
  | feed earlier stimulus outside ih => exact ih.feed outside
  | change earlier setting ih => exact ih.change setting
  | pass earlier now forward inTime ih => exact ih.pass inTime
  | happen earlier messageFirst next ih => exact ih.happen next

end Tracks

/-! ## Writes and applies -/

/--
The state of a device is at every moment what was written last: its first state, a state set from
outside, or the intent, which an apply writes whole at its end. An iteration that reads while the
latest write is from an apply starts no apply, and comes to be compliant unless the read fails.
There is one success told for each write of an apply, and no more of them than writes from outside,
but for one if the first state is not the intended one. Without writes from outside the state is the
first one or the intended one, and stays the intended one once it is.
-/
theorem applies_bounded_by_outside_writes {device : BenchDevice} {intent : Intent}
    {options : LoopOptions} {notes : List Note} {t : Timeline BenchDevice}
    (h : Life (Timeline.create device intent options) notes t) :
    t.device.state = (latestWrite notes).elim device.state (Write.state intent) ∧
    (∀ ahead work effect behind,
      notes = ahead ++ .did .read :: (work ++ .did effect :: behind) →
      latestWrite ahead = some .committed → (∀ note ∈ work, note.isRead = false) →
      effect.isApply = false ∧ ∀ outcome, effect.outcome? = some outcome → outcome = .compliant ∨
        (outcome = .stateUnknown ∧ ∃ error, .answered (.error error) ∈ work)) ∧
    t.loop.summary.applies = notes.countP Note.isCommit ∧
    t.loop.summary.applies ≤
      (if device.state = intent.state then 0 else 1) + notes.countP Note.isOutside ∧
    (notes.countP Note.isOutside = 0 →
      t.device.state = device.state ∨ t.device.state = intent.state) ∧
    (∀ more t', Life t more t' → more.countP Note.isOutside = 0 →
      t.device.state = intent.state → t'.device.state = intent.state) := by
  have start := Tracks.create device intent options
  have accounts := (start.of_life h).accounts
  refine ⟨accounts.state, ?_, accounts.applies, ?_, ?_, ?_⟩
  · rintro ahead work effect behind rfl committed noRead
    have rests := accounts.quiet (ahead ++ .did .read :: work) (.did effect) behind (by simp)
    exact rests ahead work ⟨rfl, noRead⟩ committed
  · have bound := accounts.bound
    rw [← accounts.applies] at bound
    refine Nat.le_trans (Nat.le_trans (Nat.le_add_right _ _) bound) (Nat.add_le_add_right ?_ _)
    by_cases same : device.state = intent.state <;> simp [same]
  · intro alone
    rw [accounts.state]
    rcases latestWrite_append_of_no_outside [] alone with committed | none
    · rw [List.nil_append] at committed
      rw [committed]
      exact .inr rfl
    · rw [List.nil_append] at none
      rw [none]
      exact .inl rfl
  · intro more t' behind alone intended
    have state' := (start.of_life (h.trans behind)).accounts.state
    rw [state']
    rcases latestWrite_append_of_no_outside notes alone with committed | same
    · rw [committed]
      rfl
    · rw [same, ← accounts.state]
      exact intended

/-- A state set in the middle of an apply is written over; one that is set later is corrected. -/
theorem applies_of_writes_in_run :
    let device : BenchDevice := { name := "router1", state := .drifted, applyDelay := .ofSecs 5 }
    let t := Timeline.create device .sample { LoopOptions.standard with maxIterations := some 3 }
    let set : Action BenchDevice := .change fun device => device.set (.state .drifted)
    ∃ notes u, t.run? (fun _ => false) 20 [⟨2000, set⟩, ⟨10000, set⟩] = some u ∧ Life t notes u ∧
      u.loop.summary = { iterations := 3, applies := 2 } ∧ u.device.state = Intent.sample.state ∧
      u.loop.summary.applies = notes.countP Note.isCommit ∧
      u.loop.summary.applies ≤ 1 + notes.countP Note.isOutside := by
  intro device t set
  have outside : set.IsOutside := ⟨.state .drifted, rfl⟩
  have evaluated : (t.run? (fun _ => false) 20 [⟨2000, set⟩, ⟨10000, set⟩]).map
      (fun u => (u.loop.summary, u.device.state)) =
        some ({ iterations := 3, applies := 2 }, Intent.sample.state) := by decide
  obtain ⟨u, ran, found⟩ := Option.map_eq_some_iff.mp evaluated
  obtain ⟨notes, life⟩ := Life.of_run (by simp [outside]) ran
  obtain ⟨-, -, counted, bound, -⟩ := applies_bounded_by_outside_writes life
  exact ⟨notes, u, ran, life, congrArg Prod.fst found, congrArg Prod.snd found, counted, bound⟩

end ClosedLoop
