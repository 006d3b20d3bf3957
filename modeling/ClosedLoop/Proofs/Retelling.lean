import ClosedLoop.Proofs.Failures
import ClosedLoop.Proofs.Rearming
import ClosedLoop.Proofs.Trace
import ClosedLoop.Report.Log
import ClosedLoop.Report.Record

/-!
# Retelling the records from the log

A log and the records of a run tell the same events. The named values of an entry hold all that the
records of its event say, so that these can be read off the log without knowing the events, but for
one thing: a record has all the milliseconds of a delay, and an entry keeps 64 bits of them.

* `Report.LogEntry.record?` — the record that an entry reads as
* `Report.retell_entries`, `Report.retell_log` — what the entries of an event, and those of many,
  read as
* `Execution.log_eq` — the log of a run, event by event
* `LoopOptions.millis_delayAfter_iff` — when no delay that a configuration calls for is cut
* `log_retells_records` — what is read off the log of a run
-/

namespace ClosedLoop

/-! ## Numbers in text -/

theorem Text.Decimal.text_injective : Function.Injective Text.Decimal.text := by
  intro a b same
  have digits : Text.Decimal.digits a = Text.Decimal.digits b := String.ofList_injective same
  apply Option.some.inj
  rw [← Text.Decimal.read?_digits a, ← Text.Decimal.read?_digits b, digits]

namespace Report

/-! ## Reading a record off an entry -/

/-- The text of a value itself, without quotes. -/
def LogValue.bare : LogValue → String
  | quoted text => text
  | value => value.text

/--
How entries read as records, by their messages: the names of values, each with the text ahead of
it. The entry on a drift as a whole has no record.
-/
def recordForms : List (String × List (String × String)) :=
  [("starting closed-loop enforcement", [("start:", "device")]),
    ("retrieving operational state", [("iteration:", "iteration")]),
    ("compliant, no action needed", [("compliant:", "iteration")]),
    ("field drift",
      [("drift:", "iteration"), (":", "field"), (": ", "observed"), (" -> ", "desired")]),
    ("configuration applied", [("applied:", "iteration")]),
    ("apply failed, device state unchanged",
      [("apply_failed:", "iteration"), (":", "consecutive_failures")]),
    ("operational state unknown, skipping apply", [("read_failed:", "iteration")]),
    ("waiting for next iteration", [("waiting:", "delay_ms")]),
    ("enforcement loop stopped", [("stopped:", "iterations")])]

namespace LogEntry

/-- The named values behind their texts; `none` where the entry has no such value. -/
def fill? (entry : LogEntry) : List (String × String) → Option String
  | [] => some ""
  | (ahead, name) :: rest =>
    match entry.fields.lookup name, entry.fill? rest with
    | some value, some behind => some (ahead ++ value.bare ++ behind)
    | _, _ => none

/-- The record that an entry reads as, by its message and its named values. -/
def record? (entry : LogEntry) : Option String :=
  (recordForms.lookup entry.message).bind entry.fill?

end LogEntry

/-- The records that entries read as, one after the other. -/
def retell (entries : List LogEntry) : List String :=
  entries.filterMap LogEntry.record?

theorem retell_append (entries more : List LogEntry) :
    retell (entries ++ more) = retell entries ++ retell more :=
  List.filterMap_append

/-- The records of an event as far as its entries have them: of a delay, 64 bits. -/
def loggedRecords : Event → List String
  | .waiting delay => ["waiting:" ++ Text.Decimal.text (delay.millis % 2 ^ 64)]
  | event => records event

/-! ## Entries of an event -/

section

variable {device name : String} {event : Event}

attribute [local simp] entries entryBodies LogEntry.record? recordForms LogEntry.fill? LogValue.bare
  LogValue.text stateFields deviceAfter loggedRecords records

/-- The entry on a field that has drifted reads as its record. -/
theorem record?_fieldDrift (device : String) (number : Nat) (field : FieldDrift) :
    LogEntry.record?
        ⟨.info, "field drift",
          [("device", .shown device), ("iteration", .number number),
            ("field", .quoted field.field.name), ("observed", .shown field.observed),
            ("desired", .shown field.desired)]⟩ =
      some ("drift:" ++ Text.Decimal.text number ++ ":" ++ field.text) := by
  simp [List.lookup_cons, FieldDrift.text, String.append_assoc]

/-- The entries of an event read as its records, with the delays that they have. -/
theorem retell_entries (device : String) (event : Event) :
    retell (entries (deviceAfter device event) event) = loggedRecords event := by
  cases event with
  | drift number fields =>
    -- The first entry is on the drift as a whole, and each of the others is on one field.
    have whole : LogEntry.record?
        ⟨.warn, "drift detected, applying intent",
          [("device", .shown device), ("iteration", .number number),
            ("fields", .number fields.length)]⟩ = none := by
      simp [List.lookup_cons]
    have each := List.filterMap_congr fun field (_ : field ∈ fields) =>
      record?_fieldDrift device number field
    rw [List.filterMap_eq_map'] at each
    simp only [retell, entries, entryBodies, deviceAfter, List.map_cons, List.map_map]
    rw [List.filterMap_cons_none whole, List.filterMap_map]
    exact each
  | _ => simp [retell, List.lookup_cons, String.append_assoc]

/-- These are the records of the event, but for a delay of more milliseconds than an entry keeps. -/
theorem loggedRecords_eq_iff :
    loggedRecords event = records event ↔
      ∀ delay, event = .waiting delay → delay.millis < 2 ^ 64 := by
  cases event with
  | waiting delay =>
    have same : loggedRecords (.waiting delay) = records (.waiting delay) ↔
        delay.millis % 2 ^ 64 = delay.millis := by
      simp [Text.Decimal.text_injective.eq_iff]
    rw [same, Nat.mod_eq_iff_lt (by decide)]
    exact ⟨fun short _ is => by cases is; exact short, fun all => all delay rfl⟩
  | _ => exact iff_of_true rfl nofun

theorem length_loggedRecords (event : Event) :
    (loggedRecords event).length = (records event).length := by
  cases event <;> rfl

/-- Every entry of an event names the device. -/
theorem lookup_device_of_mem_entries {entry : LogEntry} (member : entry ∈ entries device event) :
    entry.fields.lookup "device" = some (.shown device) := by
  obtain ⟨body, -, rfl⟩ := List.mem_map.mp member
  rfl

/-- The entry on a wait has the last 64 bits of its milliseconds. -/
theorem lookup_delay_entries (device : String) (delay : Duration) :
    (entries device (.waiting delay)).map (·.fields.lookup "delay_ms") =
      [some (.number (delay.millis % 2 ^ 64))] := by
  simp [List.lookup_cons]

theorem deviceAfter_eq (own : ∀ device intent, event = .start device intent → device = name) :
    deviceAfter name event = name := by
  cases event with
  | start device intent => exact own device intent rfl
  | _ => rfl

end

/-! ## Logs -/

section

variable {name : String} {events : List Event}

theorem retell_log (device : String) (events : List Event) :
    retell (log device events).flatten = events.flatMap loggedRecords := by
  induction events generalizing device with
  | nil => rfl
  | cons event rest ih =>
    rw [log, List.flatten_cons, retell_append, retell_entries, ih, List.flatMap_cons]

/-- No record that is cut is made up for by another one, as their number is that of the records. -/
theorem flatMap_loggedRecords_eq_iff :
    events.flatMap loggedRecords = events.flatMap records ↔
      ∀ delay, .waiting delay ∈ events → delay.millis < 2 ^ 64 := by
  constructor
  · intro same delay member
    induction events with
    | nil => cases member
    | cons event rest ih =>
      rw [List.flatMap_cons, List.flatMap_cons] at same
      obtain ⟨first, behind⟩ := List.append_inj same (length_loggedRecords event)
      rcases List.mem_cons.mp member with here | later
      · exact loggedRecords_eq_iff.mp first delay here.symm
      · exact ih behind later
  · intro short
    refine List.flatMap_congr fun event member => loggedRecords_eq_iff.mpr ?_
    rintro delay rfl
    exact short delay member

/-- Where every start is that of one device, all entries are on it. -/
theorem log_eq_map (own : ∀ device intent, .start device intent ∈ events → device = name) :
    log name events = events.map (entries name) := by
  induction events with
  | nil => rfl
  | cons event rest ih =>
    have still : deviceAfter name event = name := deviceAfter_eq fun device intent is =>
      own device intent (is ▸ List.mem_cons_self ..)
    rw [log, still, List.map_cons, ih fun device intent member =>
      own device intent (List.mem_cons_of_mem _ member)]

end

end Report

/-! ## Events of a run -/

namespace Loop

variable {l : Loop} {now : Tick} {stimulus : Stimulus} {result : Loop × List Effect}
  {device : String} {intent : Intent}

attribute [local simp] report_not_mem_unanswered

/-- No start is told of where a loop goes on. -/
theorem Continues.not_mem_start {behind : Option Cause} (h : l.Continues now behind result) :
    .report (.start device intent) ∉ result.2 := by
  cases h <;> simp [Loop.halt, startIteration, startWait]

theorem not_mem_start_told (cause : Cause) (verdict : Verdict) :
    .report (.start device intent) ∉ l.told cause verdict := by
  intro member
  have same := event_of_mem_told member
  cases verdict <;> cases same

theorem not_mem_start_goOn (cause : Cause) :
    .report (.start device intent) ∉ (l.goOn now cause).2 := by
  by_cases direct : cause = .direct
  · subst direct
    exact List.not_mem_nil
  · exact (continues_goOn direct).not_mem_start

/-- A step that tells of a start names the device of the loop. -/
theorem Transition.eq_name_of_start (h : l.Transition now stimulus result)
    (told : .report (.start device intent) ∈ result.2) : device = l.name := by
  have turned : .report (.start device intent) ∉ l.turn.2 :=
    (l.continues_turn now none).not_mem_start
  cases h with
  | run idle =>
    rcases List.mem_cons.mp told with here | behind
    · cases here
      rfl
    · exact absurd behind turned
  | @conclude _ cause verdict judges =>
    rw [conclude_eq] at told
    rcases List.mem_append.mp told with there | behind
    · exact absurd there (not_mem_start_told cause verdict)
    · exact absurd behind (not_mem_start_goOn cause)
  | ring waiting due => exact absurd told turned
  | _ => simp [halt, startIteration] at told

end Loop

namespace Execution

variable {l l' : Loop} {moves : List Move} (h : Execution l moves l')
include h

/-- Whatever start is told of, it is that of the device of the loop. -/
theorem eq_name_of_start {device : String} {intent : Intent}
    (told : .start device intent ∈ eventsIn (effectsOf moves)) : device = l.name := by
  rw [mem_eventsIn] at told
  induction h with
  | start => cases told
  | @step moves l₁ l₂ now stimulus effects earlier taken ih =>
    rw [effectsOf_append, effectsOf_singleton] at told
    rcases List.mem_append.mp told with before | here
    · exact ih before
    · rw [(Loop.transition_of_step taken).eq_name_of_start here, earlier.sameSetup.name]

/-- From its start on, the entries of a run are on its device, whatever was logged before. -/
theorem log_eq (called : moves.head?.map Move.stimulus = some .run) (device : String) :
    Report.log device (eventsIn (effectsOf moves)) =
      (eventsIn (effectsOf moves)).map (Report.entries l.name) := by
  obtain ⟨events, told, -⟩ := h.story called
  have own : Report.log l.name (eventsIn (effectsOf moves)) =
      (eventsIn (effectsOf moves)).map (Report.entries l.name) :=
    Report.log_eq_map fun _ _ => h.eq_name_of_start
  rw [told] at own ⊢
  exact own

end Execution

/-! ## Delays of a configuration -/

namespace Duration

theorem millis_mono {a b : Duration} (h : a ≤ b) : a.millis ≤ b.millis :=
  Nat.div_le_div_right h

/-- The seconds of which the milliseconds have 64 bits. -/
theorem millis_ofSecs_lt_iff {secs : UInt64} :
    (ofSecs secs).millis < 2 ^ 64 ↔ ofSecs secs ≤ .ofSecs 18446744073709551 := by
  have most : (18446744073709551 : UInt64).toNat = 18446744073709551 := rfl
  rw [le_iff, millis, nanos_ofSecs, nanos_ofSecs, most]
  simp only [nanosPerSec, nanosPerMilli]
  omega

end Duration

/-- No delay that a section calls for is cut, exactly if the longest is not. -/
theorem LoopOptions.millis_delayAfter_iff {config : ControllerConfig}
    (kept : config.fault? = none) :
    (∀ failures, ((ofConfig config).delayAfter failures).millis < 2 ^ 64) ↔
      config.longestDelay ≤ .ofSecs 18446744073709551 := by
  have longest : (∀ failures, ((ofConfig config).delayAfter failures).millis < 2 ^ 64) ↔
      config.longestDelay.millis < 2 ^ 64 :=
    forall_delayAfter_iff kept fun shorter short =>
      Nat.lt_of_le_of_lt (Duration.millis_mono shorter) short
  exact longest.trans Duration.millis_ofSecs_lt_iff

/-- Every delay that is told of a wait is one that the options call for. -/
theorem Execution.exists_told_delay {name : String} {intent : Intent} {options : LoopOptions}
    {moves : List Move} {l : Loop} (h : Execution (Loop.create name intent options) moves l)
    {delay : Duration} (told : .waiting delay ∈ eventsIn (effectsOf moves)) :
    ∃ failures, delay = options.delayAfter failures := by
  have counted : Counted (effectsOf moves) l l.point.stage :=
    kept_counted.of_new ⟨rfl, throughout_nil⟩ h
  obtain ⟨ahead, behind, cut⟩ := List.append_of_mem (mem_eventsIn.mp told)
  have byHistory : delay = l.options.delayBehind (outcomesIn ahead) :=
    counted.told ahead _ behind cut
  rw [h.sameSetup.options] at byHistory
  exact ⟨failuresKept (outcomesIn ahead), byHistory⟩

open Report (entries records retell)

/--
The log of a run has the entries of its events, each of them on the device of the loop. Read off the
entries of an event, and of all, are its records, with the last 64 bits of the milliseconds of each
delay told; these are the records themselves exactly if no delay told has more. Every delay told is
one that the configuration calls for. None of these has more exactly if the longest has not, and
then the log has all the milliseconds of every delay and reads as the records of the run.
-/
theorem log_retells_records {config : Config} (valid : config.Valid) {name : String}
    {intent : Intent} {maxIterations : Option Nat} {before moves : List Move} {l l' : Loop}
    (earlier : Execution (.create name intent
      { LoopOptions.ofConfig config.controller with maxIterations }) before l)
    (h : Execution l moves l') (called : moves.head?.map Move.stimulus = some .run)
    (device : String) :
    let events := eventsIn (effectsOf moves)
    let log := Report.log device events
    log = events.map (entries name) ∧
    (∀ entry ∈ log.flatten, entry.fields.lookup "device" = some (.shown name)) ∧
    (∀ event ∈ events, retell (entries name event) = records event ↔
      ∀ delay, event = .waiting delay → delay.millis < 2 ^ 64) ∧
    retell log.flatten = events.flatMap Report.loggedRecords ∧
    (retell log.flatten = events.flatMap records ↔
      ∀ delay, .waiting delay ∈ events → delay.millis < 2 ^ 64) ∧
    (∀ delay, .waiting delay ∈ events →
      (∃ failures, delay = (LoopOptions.ofConfig config.controller).delayAfter failures) ∧
      (entries name (.waiting delay)).map (·.fields.lookup "delay_ms") =
        [some (.number (delay.millis % 2 ^ 64))]) ∧
    ((∀ failures,
        ((LoopOptions.ofConfig config.controller).delayAfter failures).millis < 2 ^ 64) ↔
      config.controller.longestDelay ≤ .ofSecs 18446744073709551) ∧
    (config.controller.longestDelay ≤ .ofSecs 18446744073709551 →
      retell log.flatten = events.flatMap records ∧
      ∀ delay, .waiting delay ∈ events →
        (entries name (.waiting delay)).map (·.fields.lookup "delay_ms") =
          [some (.number delay.millis)]) := by
  intro events log
  have kept : config.controller.fault? = none := (Config.valid_iff.mp valid).2.2.2
  have named : l.name = name := earlier.sameSetup.name
  have mapped : log = events.map (entries name) := named ▸ h.log_eq called device
  have told : ∀ delay, .waiting delay ∈ events →
      ∃ failures, delay = (LoopOptions.ofConfig config.controller).delayAfter failures := by
    intro delay member
    refine (earlier.append h).exists_told_delay ?_
    rw [effectsOf_append, eventsIn_append]
    exact List.mem_append_right _ member
  have whole : retell log.flatten = events.flatMap records ↔
      ∀ delay, .waiting delay ∈ events → delay.millis < 2 ^ 64 := by
    rw [Report.retell_log, Report.flatMap_loggedRecords_eq_iff]
  have short := LoopOptions.millis_delayAfter_iff kept
  refine ⟨mapped, ?_, ?_, Report.retell_log device events, whole, ?_, short, ?_⟩
  · intro entry member
    rw [mapped, ← List.flatMap_def] at member
    obtain ⟨event, -, there⟩ := List.mem_flatMap.mp member
    exact Report.lookup_device_of_mem_entries there
  · intro event member
    have own : Report.deviceAfter name event = name := by
      refine Report.deviceAfter_eq ?_
      rintro device' intent' rfl
      exact (h.eq_name_of_start member).trans named
    have read := Report.retell_entries name event
    rw [own] at read
    rw [read, Report.loggedRecords_eq_iff]
  · intro delay member
    exact ⟨told delay member, Report.lookup_delay_entries name delay⟩
  · intro longest
    have uncut : ∀ delay, .waiting delay ∈ events → delay.millis < 2 ^ 64 := by
      intro delay member
      obtain ⟨failures, rfl⟩ := told delay member
      exact short.mpr longest failures
    refine ⟨whole.mpr uncut, fun delay member => ?_⟩
    rw [Report.lookup_delay_entries, Nat.mod_eq_of_lt (uncut delay member)]

/-- A run that fails to apply its intent, waits and applies it, behind a direct call. -/
theorem log_retells_second_apply :
    let options := { LoopOptions.ofConfig Config.plain.controller with maxIterations := some 3 }
    let direct := (Loop.create "router1" .sample options).replay
      [(0, .iterate), (0, .readAnswered (.error (.stateRead "no answer")))]
    let run := direct.2.replay
      [(0, .run), (0, .readAnswered (.ok .drifted)),
        (0, .applyAnswered (.error (.apply "refused"))), (5000, .timeUp),
        (5000, .readAnswered (.ok .drifted)), (5000, .applyAnswered (.ok Intent.sample.state))]
    let events := eventsIn (effectsOf run.1)
    let log := Report.log "" events
    Config.plain.Valid ∧ run.1.head?.map Move.stimulus = some .run ∧
      run.2.point = .stopped ∧ events.length = 9 ∧ log.flatten.length = 15 ∧
      (∀ entry ∈ log.flatten, entry.fields.lookup "device" = some (.shown "router1")) ∧
      retell log.flatten = events.flatMap records ∧
      .waiting (.ofSecs 5) ∈ events ∧
      (entries "router1" (.waiting (.ofSecs 5))).map (·.fields.lookup "delay_ms") =
        [some (.number 5000)] := by
  intro options direct run events log
  have valid : Config.plain.Valid := by decide
  have called : run.1.head?.map Move.stimulus = some .run := by rfl
  have longest : Config.plain.controller.longestDelay ≤ .ofSecs 18446744073709551 := by decide
  have waits : .waiting (.ofSecs 5) ∈ events := by decide
  obtain ⟨-, named, -, -, -, -, -, short⟩ :=
    log_retells_records valid (.of_replay _ _) (.of_replay direct.2 _) called ""
  obtain ⟨retold, delays⟩ := short longest
  exact ⟨valid, called, by decide, by decide, by decide, named, retold, waits, delays _ waits⟩

/-- A configuration with this interval and no backoff. -/
def Config.steady (intervalSecs : UInt64) : Config :=
  { Config.plain with controller := { intervalSecs, backoff := ⟨false, 60⟩ } }

/-- The run of a loop with a compliant device as far as the first wait. -/
def toFirstWait (config : ControllerConfig) : List Move × Loop :=
  let options := { LoopOptions.ofConfig config with maxIterations := some 3 }
  (Loop.create "router1" .sample options).replay
    [(0, .run), (0, .readAnswered (.ok Intent.sample.state))]

/--
With an interval of five seconds, and with one of 2^61 seconds more, a run has the same log and not
the same records: the log has five thousand milliseconds for both delays.
-/
theorem log_of_cut_delay :
    let config := fun secs => (Config.steady secs).controller
    let events := fun secs => eventsIn (effectsOf (toFirstWait (config secs)).1)
    let near := events 5
    let far := events 2305843009213693957
    (Config.steady 5).Valid ∧ (Config.steady 2305843009213693957).Valid ∧
      (∀ secs, Execution
        (.create "router1" .sample
          { LoopOptions.ofConfig (config secs) with maxIterations := some 3 })
        (toFirstWait (config secs)).1 (toFirstWait (config secs)).2) ∧
      .waiting (.ofSecs 2305843009213693957) ∈ far ∧
      (Duration.ofSecs 2305843009213693957).millis = 2305843009213693957000 ∧
      (entries "router1" (.waiting (.ofSecs 2305843009213693957))).map
          (·.fields.lookup "delay_ms") = [some (.number 5000)] ∧
      Report.log "" far = Report.log "" near ∧ far.flatMap records ≠ near.flatMap records := by
  intro config events near far
  have told : ∀ secs, events secs =
      [.start "router1" .sample, .iteration 1, .compliant 1 Intent.sample.state,
        .waiting (.ofSecs secs)] := fun _ => rfl
  refine ⟨by decide, by decide, fun _ => .of_replay _ _, by decide, by decide, by decide,
    by decide, fun same => ?_⟩
  -- All but the last records are the same, and those are of two numbers.
  simp only [near, far, told, List.flatMap_cons, List.append_cancel_left_eq] at same
  have last := (String.append_right_inj _).mp (List.head_eq_of_cons_eq same)
  exact absurd (Text.Decimal.text_injective last) (by decide)

end ClosedLoop
