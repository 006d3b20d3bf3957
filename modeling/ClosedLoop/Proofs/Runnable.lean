import ClosedLoop.Proofs.ResolvedConfig
import ClosedLoop.Proofs.SimulatedRun

/-!
# Configurations that run

A configuration is judged when it is loaded, and again when its intent, its device and its options
are made. The second judgement never goes against the first: whatever loads can be run.

* `ServiceConfig.toIntent_eq_ok_iff` — the intent of a section is as written, and unique
* `Config.Runnable` — what a configuration describes is there, as written
* `CommandLine.start_eq_error_iff` — why a session fails, with the configuration before the interval
* `CommandLine.ofArguments_run` — every run can be asked for
* `loaded_configuration_runs` — whatever loads runs, and what fails does nothing
-/

namespace ClosedLoop

open CommandLine (Command Request SessionError Output)
open Text

/-! ## Intents and states -/

/-- A section on a service describes a state: the same name, port and use of TLS. -/
def ServiceConfig.Describes (config : ServiceConfig) (state : OperationalState) : Prop :=
  state.service = config.service ∧ state.port.toNat = config.port.toNat ∧ state.tls = config.tls

theorem Intent.create_eq_ok_iff {service : String} {port : UInt16} {tls : Bool} {intent : Intent} :
    create service port tls = .ok intent ↔ intent.state = ⟨service, port, tls⟩ := by
  constructor
  · intro made
    unfold create at made
    split at made
    · cases made
    · split at made
      · cases made
      · rw [← Except.ok.inj made]
        rfl
  · intro same
    injection same with service' port' tls'
    subst service' port' tls'
    unfold create
    split
    · next named => exact nomatch named.symm.trans intent.service_named
    · rw [dif_neg intent.port_ne_zero]

namespace ServiceConfig

variable {config : ServiceConfig}

theorem port16?_eq_ok_iff {port : UInt16} :
    config.port16? = .ok port ↔ port.toNat = config.port.toNat := by
  unfold port16?
  constructor
  · intro made
    split at made
    · next below =>
      rw [← Except.ok.inj made, UInt32.toNat_toUInt16]
      exact Nat.mod_eq_of_lt below
    · cases made
  · intro same
    have below : config.port.toNat < UInt16.size := same ▸ port.toNat_lt
    rw [if_pos below]
    congr 1
    apply UInt16.toNat_inj.mp
    rw [same, UInt32.toNat_toUInt16]
    exact Nat.mod_eq_of_lt below

theorem toState_eq_ok_iff {state : OperationalState} :
    config.toState = .ok state ↔ config.Describes state := by
  unfold toState
  constructor
  · intro made
    split at made
    · next port ported =>
      cases made
      exact ⟨rfl, port16?_eq_ok_iff.mp ported, rfl⟩
    · cases made
  · rintro ⟨service, port, tls⟩
    rw [port16?_eq_ok_iff.mpr port, ← service, ← tls]

/-- The intent that a section describes is the one with the state that it describes. -/
theorem toIntent_eq_ok_iff {intent : Intent} :
    config.toIntent = .ok intent ↔ config.Describes intent.state := by
  unfold toIntent
  constructor
  · intro made
    split at made
    · next port ported =>
      rw [Intent.create_eq_ok_iff.mp made]
      exact ⟨rfl, port16?_eq_ok_iff.mp ported, rfl⟩
    · cases made
  · rintro ⟨service, port, tls⟩
    rw [port16?_eq_ok_iff.mpr port]
    refine Intent.create_eq_ok_iff.mpr ?_
    rw [← service, ← tls]

theorem fault?_eq_none_iff {part : ServiceSection} :
    config.fault? part = none ↔
      Text.isBlank config.service = false ∧ 1 ≤ config.port.toNat ∧ config.port.toNat ≤ 65535 := by
  unfold fault?
  cases Text.isBlank config.service with
  | true => simp
  | false => simp

/-- A section breaks no rule where it describes an intent. -/
theorem exists_toIntent_iff {part : ServiceSection} :
    (∃ intent, config.toIntent = .ok intent) ↔ config.fault? part = none := by
  rw [fault?_eq_none_iff]
  constructor
  · rintro ⟨intent, made⟩
    obtain ⟨service, port, -⟩ := toIntent_eq_ok_iff.mp made
    have nonzero : intent.port.toNat ≠ 0 := fun zero =>
      intent.port_ne_zero (UInt16.toNat_inj.mp zero)
    have below := intent.port.toNat_lt
    rw [Intent.port_state] at port
    refine ⟨service ▸ intent.service_named, ?_, ?_⟩ <;> omega
  · rintro ⟨named, positive, below⟩
    have same : config.port.toUInt16.toNat = config.port.toNat := by
      rw [UInt32.toNat_toUInt16]
      exact Nat.mod_eq_of_lt (by omega)
    have nonzero : config.port.toUInt16 ≠ 0 := by
      intro zero
      rw [zero] at same
      have : (0 : UInt16).toNat = 0 := rfl
      omega
    exact ⟨⟨config.service, config.port.toUInt16, config.tls, named, nonzero⟩,
      toIntent_eq_ok_iff.mpr ⟨rfl, same, rfl⟩⟩

end ServiceConfig

/-! ## Devices -/

namespace SimulatedDevice

/-- Pushes one behind the other, each at its time: their results, and the device behind them. -/
def pushAll (d : SimulatedDevice) :
    List (Tick × Intent) → List (Except EnforcementError OperationalState) × SimulatedDevice
  | [] => ([], d)
  | (now, intent) :: rest =>
    let reached := Device.applyThrough now d intent
    let (results, last) := reached.device.pushAll rest
    (reached.result :: results, last)

/-- The answer to a push that is refused. -/
def refusal (d : SimulatedDevice) : EnforcementError :=
  .apply (d.name ++ " (" ++ d.platform ++ ") rejected the configuration")

/-- The first pushes are refused, as many as the device refuses, and all others are taken. -/
theorem results_pushAll (d : SimulatedDevice) (pushes : List (Tick × Intent)) :
    (d.pushAll pushes).1 =
      (pushes.take d.rejectsRemaining).map (fun _ => .error d.refusal) ++
        (pushes.drop d.rejectsRemaining).map (fun push => .ok push.2.state) := by
  induction pushes generalizing d with
  | nil => rw [List.take_nil, List.drop_nil]; rfl
  | cons push rest ih =>
    obtain ⟨now, intent⟩ := push
    show (Device.applyThrough now d intent).result ::
      ((Device.applyThrough now d intent).device.pushAll rest).1 = _
    cases left : d.rejectsRemaining with
    | zero =>
      have begun : Device.apply now d intent = (d, ⟨.zero, .ok intent.state⟩) :=
        startApply_of_taken intent left
      have pushed : Device.applyThrough now d intent =
          ⟨{ d with state := intent.state }, now.sleepEnd .zero, .ok intent.state⟩ := by
        rw [Device.applyThrough, begun]
        rfl
      rw [pushed, ih, left]
      rfl
    | succ rejects =>
      have begun : Device.apply now d intent =
          ({ d with rejectsRemaining := rejects }, ⟨.zero, .error d.refusal⟩) := by
        show d.startApply intent = _
        rw [startApply, left]
        rfl
      have pushed : Device.applyThrough now d intent =
          ⟨{ d with rejectsRemaining := rejects }, now.sleepEnd .zero, .error d.refusal⟩ := by
        rw [Device.applyThrough, begun]
      rw [pushed, ih]
      rfl

/-- A configuration describes a device: its name, its first state and how many pushes it refuses. -/
theorem ofConfig_of_describes {config : Config} {state : OperationalState}
    (describes : config.simulation.initialState.Describes state) :
    ofConfig config = .ok ⟨config.device.hostname, config.device.platform, state,
      config.simulation.rejectFirstApplies.toNat⟩ := by
  rw [ofConfig, ServiceConfig.toState_eq_ok_iff.mpr describes]

end SimulatedDevice

/-! ## Loaded configurations -/

theorem Duration.zero_lt_ofSecs {secs : UInt64} (positive : secs ≠ 0) : zero < ofSecs secs := by
  have counted : secs.toNat ≠ 0 := fun none' => positive (UInt64.toNat_inj.mp none')
  show 0 < secs.toNat * nanosPerSec
  exact Nat.mul_pos (Nat.pos_of_ne_zero counted) (by decide)

theorem ControllerConfig.fault?_eq_none_iff {config : ControllerConfig} :
    config.fault? = none ↔ config.intervalSecs ≠ 0 ∧ config.applyTimeoutSecs ≠ 0 ∧
      (config.backoff.enabled = true → config.intervalSecs ≤ config.backoff.maxSecs) := by
  unfold fault?
  constructor
  · intro kept
    split at kept
    · cases kept
    · next interval =>
      split at kept
      · cases kept
      · next applyTimeout =>
        split at kept
        · cases kept
        · next longest =>
          refine ⟨interval, applyTimeout, fun enabled => ?_⟩
          rw [enabled, Bool.true_and, decide_eq_true_eq] at longest
          exact UInt64.not_lt.mp longest
  · rintro ⟨interval, applyTimeout, longest⟩
    rw [if_neg interval, if_neg applyTimeout, if_neg]
    rw [Bool.and_eq_true, decide_eq_true_eq]
    rintro ⟨enabled, below⟩
    exact UInt64.not_lt.mpr (longest enabled) below

namespace Config

variable {config : Config}

/-- What a configuration describes is there, and as written. -/
structure Runnable (config : Config) : Prop where
  intent : ∃ intent, config.intent.toIntent = .ok intent ∧ config.intent.Describes intent.state
  device : ∃ device, SimulatedDevice.ofConfig config = .ok device ∧
    device.name = config.device.hostname ∧
    config.simulation.initialState.Describes device.state ∧
    ∀ pushes, (device.pushAll pushes).1 =
      (pushes.take config.simulation.rejectFirstApplies.toNat).map (fun _ =>
          .error device.refusal) ++
        (pushes.drop config.simulation.rejectFirstApplies.toNat).map (fun push =>
          .ok push.2.state)
  interval : Duration.zero < (LoopOptions.ofConfig config.controller).interval
  applyTimeout : Duration.zero < (LoopOptions.ofConfig config.controller).applyTimeout

theorem valid_iff :
    config.Valid ↔ Text.isBlank config.device.hostname = false ∧
      config.intent.fault? .intent = none ∧
      config.simulation.initialState.fault? .initialState = none ∧
      config.controller.fault? = none := by
  unfold Valid fault?
  cases Text.isBlank config.device.hostname with
  | true => simp
  | false => simp [Option.or_eq_none_iff]

theorem Valid.runnable (valid : config.Valid) : config.Runnable := by
  obtain ⟨-, asked, first, timing⟩ := valid_iff.mp valid
  obtain ⟨intent, made⟩ := ServiceConfig.exists_toIntent_iff.mpr asked
  obtain ⟨start, started⟩ := ServiceConfig.exists_toIntent_iff.mpr first
  have describes := ServiceConfig.toIntent_eq_ok_iff.mp started
  obtain ⟨interval, applyTimeout, -⟩ := ControllerConfig.fault?_eq_none_iff.mp timing
  exact {
    intent := ⟨intent, made, ServiceConfig.toIntent_eq_ok_iff.mp made⟩
    device := ⟨_, SimulatedDevice.ofConfig_of_describes describes, rfl, describes,
      SimulatedDevice.results_pushAll _⟩
    interval := Duration.zero_lt_ofSecs interval
    applyTimeout := Duration.zero_lt_ofSecs applyTimeout }

theorem valid_of_ofText {text : String} (read : ofText text = .ok config) : config.Valid := by
  unfold ofText at read
  split at read
  · split at read
    · next found none' =>
      cases read
      exact none'
    · cases read
  · cases read

theorem valid_of_load {files : FileReader} {path : String} (loaded : load files path = .ok config) :
    config.Valid := by
  unfold load at loaded
  split at loaded
  · unfold ofBytes at loaded
    split at loaded
    · exact valid_of_ofText loaded
    · cases loaded
  · cases loaded

end Config

/-! ## Sessions -/

namespace CommandLine

variable {files : FileReader} {path : String} {command : Command} {error : SessionError}

/-- Why a command fails: its configuration, or else an interval of zero. -/
inductive Fails (files : FileReader) (path : String) : Command → SessionError → Prop where
  | config {command : Command} {error : SessionError} :
    loadConfig files path = .error error → Fails files path command error
  | interval {config : Config} (maxIterations : Option UInt64) :
    loadConfig files path = .ok config →
      Fails files path (.run (some 0) maxIterations) .zeroInterval

theorem loadConfig_eq_ok_iff {config : Config} :
    loadConfig files path = .ok config ↔ Config.load files path = .ok config := by
  unfold loadConfig
  split <;> simp_all

/-- The start of a loop on a configuration that has been loaded fails at most for its interval. -/
theorem start_run_of_valid {config : Config} (loaded : loadConfig files path = .ok config)
    (interval maxIterations : Option UInt64) :
    (interval = some 0 ∧
        start files path (.run interval maxIterations) = .error .zeroInterval) ∨
      interval ≠ some 0 ∧ ∃ opening device intent,
        start files path (.run interval maxIterations) = .ok (.enforcing opening
          (Timeline.create device intent (runOptions config interval maxIterations))) := by
  have runnable := (Config.valid_of_load (loadConfig_eq_ok_iff.mp loaded)).runnable
  obtain ⟨intent, made, -⟩ := runnable.intent
  obtain ⟨device, simulated, -⟩ := runnable.device
  by_cases zero : interval = some 0
  · refine .inl ⟨zero, ?_⟩
    simp only [start, loaded, enforcement, Timeline.ofConfig, made, simulated, if_pos zero]
  · exact .inr ⟨zero, _, device, intent, start_run loaded made simulated zero⟩

/-- A command fails for these reasons only, the configuration before the interval. -/
theorem start_eq_error_iff :
    start files path command = .error error ↔ Fails files path command error := by
  constructor
  · intro failed
    cases loaded : loadConfig files path with
    | error other =>
      simp only [start, loaded] at failed
      cases failed
      exact .config loaded
    | ok config =>
      cases command with
      | check json =>
        simp only [start, loaded] at failed
        cases failed
      | run interval maxIterations =>
        rcases start_run_of_valid loaded interval maxIterations with
          ⟨rfl, zero⟩ | ⟨-, _, _, _, enforcing⟩
        · rw [zero] at failed
          cases failed
          exact .interval maxIterations loaded
        · rw [enforcing] at failed
          cases failed
  · rintro (loaded | ⟨maxIterations, loaded⟩)
    · simp only [start, loaded]
    · rcases start_run_of_valid loaded (some 0) maxIterations with ⟨-, zero⟩ | ⟨positive, -⟩
      · exact zero
      · exact absurd rfl positive

/-- The calls of the device in a session, within a number of steps of its loop. -/
def callsWithin (steps : Nat) (files : FileReader) (arguments : List String) : List Effect :=
  match Request.ofArguments arguments with
  | .ok (.command path command) =>
    match start files (path.getD defaultPath) command with
    | .ok (.enforcing _ timeline) =>
      ((timeline.feed .run).after (fun _ => false) steps).effects.filter Effect.isCall
    | _ => []
  | _ => []

variable {filter : Report.LogFilter} {arguments : List String} {path? : Option String}

/-- A session that fails leaves an error behind, and nothing else. -/
theorem session?_of_fails
    (asked : Request.ofArguments arguments = .ok (.command path? command))
    (fails : Fails files (path?.getD defaultPath) command error) (fuel : Nat) :
    session? fuel files filter arguments =
      some { code := 1, out := "", err := unlines ["Error: " ++ error.message] } := by
  simp only [session?, asked, start_eq_error_iff.mpr fails, failed]

theorem callsWithin_of_fails
    (asked : Request.ofArguments arguments = .ok (.command path? command))
    (fails : Fails files (path?.getD defaultPath) command error) (steps : Nat) :
    callsWithin steps files arguments = [] := by
  simp only [callsWithin, asked, start_eq_error_iff.mpr fails]

/-- A session with a code other than zero has failed. -/
theorem fails_of_session? {fuel : Nat} {output : Output}
    (asked : Request.ofArguments arguments = .ok (.command path? command))
    (finished : session? fuel files filter arguments = some output) (bad : output.code ≠ 0) :
    ∃ error, Fails files (path?.getD defaultPath) command error := by
  simp only [session?, asked] at finished
  split at finished
  · next error failed => exact ⟨error, start_eq_error_iff.mp failed⟩
  · cases finished
    exact absurd rfl bad
  · obtain ⟨final, -, rfl⟩ := Option.map_eq_some_iff.mp finished
    exact absurd rfl bad

/-- A loop that is to perform an iteration begins by reading the device. -/
theorem read_mem_effects {device : SimulatedDevice} {intent : Intent} {options : LoopOptions}
    (room : options.maxIterations ≠ some 0) (steps : Nat) :
    .read ∈ (((Timeline.create device intent options).feed .run).after (fun _ => false)
      steps).effects := by
  let t := Timeline.create device intent options
  have open' : t.loop.limitReached = false := by
    have same : t.loop.options.maxIterations = options.maxIterations := rfl
    unfold Loop.limitReached
    cases bounded : options.maxIterations with
    | none => rw [same, bounded]
    | some bound =>
      have positive : bound ≠ 0 := fun zero => room (bounded.trans (congrArg some zero))
      rw [same, bounded]
      exact decide_eq_false fun full => positive (Nat.le_zero.mp full)
  have turned : t.loop.turn = t.loop.startIteration .regular := by
    show (if t.loop.limitReached then _ else _) = _
    rw [open', if_neg Bool.false_ne_true]
  have begun : t.loop.step t.now .run =
      some (Loop.after (.report (.start t.loop.name t.loop.intent)) t.loop.turn) := rfl
  have first : .read ∈ (t.feed .run).effects := by
    rw [turned] at begun
    rw [Timeline.feed_of_step begun, Timeline.effects_performAll]
    exact List.mem_append_right _ (by simp [Loop.startIteration])
  exact List.map_subset _ (Timeline.history_after steps).subset first

/-- So the session of such a loop calls the device. -/
theorem read_mem_callsWithin {config : Config} {interval maxIterations : Option UInt64}
    (asked : Request.ofArguments arguments = .ok (.command path? (.run interval maxIterations)))
    (loaded : loadConfig files (path?.getD defaultPath) = .ok config) (positive : interval ≠ some 0)
    (room : maxIterations ≠ some 0) (steps : Nat) : .read ∈ callsWithin steps files arguments := by
  rcases start_run_of_valid loaded interval maxIterations with
    ⟨zero, -⟩ | ⟨-, opening, device, intent, enforcing⟩
  · exact absurd zero positive
  have room' : (runOptions config interval maxIterations).maxIterations ≠ some 0 := by
    cases maxIterations with
    | none => nofun
    | some bound =>
      intro zero
      have same : bound.toNat = 0 := Option.some.inj zero
      exact room (congrArg some (UInt64.toNat_inj.mp same))
  simp only [callsWithin, asked, enforcing, List.mem_filter]
  exact ⟨read_mem_effects room' steps, rfl⟩

/-- A run on a configuration that loads fails exactly if its interval is zero. -/
theorem run_fails_iff {config : Config} {interval maxIterations : Option UInt64}
    (asked : Request.ofArguments arguments = .ok (.command path? (.run interval maxIterations)))
    (loaded : loadConfig files (path?.getD defaultPath) = .ok config) :
    (∃ fuel output, session? fuel files filter arguments = some output ∧ output.code ≠ 0) ↔
      interval = some 0 := by
  constructor
  · rintro ⟨fuel, output, finished, bad⟩
    obtain ⟨error, failed | ⟨_, _⟩⟩ := fails_of_session? asked finished bad
    · exact nomatch failed.symm.trans loaded
    · rfl
  · rintro rfl
    exact ⟨0, _, session?_of_fails asked (.interval maxIterations loaded) 0, Nat.one_ne_zero⟩

/-- A run on a configuration that loads comes to its bound, and ends well. -/
theorem run_ends_well {config : Config} {interval : Option UInt64} {bound : UInt64}
    (asked : Request.ofArguments arguments = .ok (.command path? (.run interval (some bound))))
    (loaded : loadConfig files (path?.getD defaultPath) = .ok config)
    (positive : interval ≠ some 0) :
    ∃ fuel output, session? fuel files filter arguments = some output ∧ output.code = 0 := by
  have runnable := (Config.valid_of_load (loadConfig_eq_ok_iff.mp loaded)).runnable
  obtain ⟨intent, made, -⟩ := runnable.intent
  obtain ⟨device, simulated, -⟩ := runnable.device
  obtain ⟨output, finished, well, -⟩ :=
    session?_run asked loaded made simulated positive (Nat.lt_succ_self _)
  exact ⟨_, output, finished, well⟩

/-! ## Asking for a run -/

/-- A number is read back from its text as the value of an option. -/
theorem word64?_text (n : UInt64) : word64? (Decimal.text n.toNat) = some n := by
  have digits : (Decimal.text n.toNat).toList = Decimal.digits n.toNat := String.toList_ofList
  have number : UInt64.ofNat n.toNat = n := UInt64.ofNat_toNat
  have small : n.toNat < UInt64.size := n.toNat_lt
  unfold word64?
  rw [digits]
  split
  next rest signed =>
    have digit := Decimal.isDigit_of_mem_digits n.toNat '+' (signed ▸ List.mem_cons_self)
    exact absurd digit (by decide)
  next =>
    simp only [Decimal.read?_digits, if_pos small]
    exact congrArg some number

/-- An option with its value in the same argument. -/
def Switch.withValue (switch : Switch) (value : String) : String :=
  "--" ++ switch.name ++ "=" ++ value

theorem readLevel_withValue {switches : List Switch} {isCommand : String → Bool}
    {settings settings' : Settings} {switch : Switch} {value : String}
    {put? : String → Settings → Option Settings} (rest : List String)
    (plain : isCommand (switch.withValue value) = false) (named : '=' ∉ switch.name.toList)
    (known : switches.find? (·.name == switch.name) = some switch)
    (takes : switch.kind = .take put?) (first : switch.isGiven settings = false)
    (put : put? value settings = some settings') :
    readLevel switches isCommand settings (switch.withValue value :: rest) =
      readLevel switches isCommand settings' rest := by
  have written : (switch.withValue value).toList =
      '-' :: '-' :: (switch.name.toList ++ '=' :: value.toList) := by
    simp [Switch.withValue]
  have other : ∀ c ∈ switch.name.toList, (c != '=') = true := fun c member =>
    bne_iff_ne.mpr fun same => named (same ▸ member)
  have name : (switch.name.toList ++ '=' :: value.toList).takeWhile (· != '=') =
      switch.name.toList := by
    rw [List.takeWhile_append_of_pos other]
    simp
  have attached : (switch.name.toList ++ '=' :: value.toList).dropWhile (· != '=') =
      '=' :: value.toList := by
    rw [List.dropWhile_append_of_pos other]
    simp
  have longer : (switch.withValue value == "--") = false := by
    refine beq_eq_false_iff_ne.mpr fun same => ?_
    rw [same] at written
    have := congrArg List.length written
    simp at this
  rw [readLevel.eq_def]
  simp only [plain, longer, written, name, attached, String.ofList_toList, known, takes, first, put,
    Bool.false_eq_true, if_false, List.tail?_cons]

/-- The options of a run, each with its value. -/
def runOptionTexts (interval maxIterations : Option UInt64) : List String :=
  (interval.map fun n => Switch.intervalSecs.withValue (Decimal.text n.toNat)).toList ++
    (maxIterations.map fun n => Switch.maxIterations.withValue (Decimal.text n.toNat)).toList

theorem readLevel_runOptionTexts (interval maxIterations : Option UInt64) :
    readLevel [.config, .help, .intervalSecs, .maxIterations] (fun _ => false) {}
        (runOptionTexts interval maxIterations) =
      .done { intervalSecs := interval, maxIterations := maxIterations } [] := by
  have bounded : ∀ settings : Settings, settings.maxIterations = none →
      readLevel [.config, .help, .intervalSecs, .maxIterations] (fun _ => false) settings
          (maxIterations.map fun n =>
            Switch.maxIterations.withValue (Decimal.text n.toNat)).toList =
        .done { settings with maxIterations := maxIterations } [] := by
    rintro ⟨config, json, intervalSecs, _⟩ rfl
    cases maxIterations with
    | none => rfl
    | some bound =>
      exact readLevel_withValue [] rfl (by decide) rfl rfl rfl
        (congrArg (Option.map _) (word64?_text bound))
  cases interval with
  | none => exact bounded {} rfl
  | some n =>
    exact (readLevel_withValue _ rfl (by decide) rfl rfl rfl
      (congrArg (Option.map _) (word64?_text n))).trans (bounded _ rfl)

/-- Every run can be asked for. -/
theorem ofArguments_run (interval maxIterations : Option UInt64) :
    Request.ofArguments ("run" :: runOptionTexts interval maxIterations) =
      .ok (.command none (.run interval maxIterations)) := by
  have named : CommandName.ofText? "run" = some .run := rfl
  have command : ∀ rest, readLevel [.config, .help, .version]
      (fun text => (CommandName.ofText? text).isSome) {} ("run" :: rest) =
        .done {} ("run" :: rest) := by
    intro rest
    rw [readLevel.eq_def]
    simp only [named, Option.isSome_some, if_true]
  rw [Request.ofArguments, command]
  simp only [named, Request.ofCommand, readLevel_runOptionTexts]
  rfl

end CommandLine

/-! ## From loading to the end of a session -/

/--
A section describes an intent exactly if it breaks no rule, and then this one. Whatever
configuration a text or a file holds, its intent, its device and its options are there, as written.

So a run on a configuration that loads fails exactly if it is given an interval of zero, and else
comes to its bound if it has one. A session that fails has a configuration that does not load, or
else this interval; it prints nothing but the error, and never calls the device.
-/
theorem loaded_configuration_runs :
    (∀ part (config : ServiceConfig),
      ((∃ intent, config.toIntent = .ok intent) ↔ config.fault? part = none) ∧
      ∀ intent, config.toIntent = .ok intent → config.Describes intent.state) ∧
    (∀ text config, Config.ofText text = .ok config → config.Runnable) ∧
    (∀ files path config, Config.load files path = .ok config → config.Runnable) ∧
    ∀ files filter arguments path command,
      Request.ofArguments arguments = .ok (.command path command) →
      (∀ config interval maxIterations, command = .run interval maxIterations →
        Config.load files (path.getD CommandLine.defaultPath) = .ok config →
        ((∃ fuel output, CommandLine.session? fuel files filter arguments = some output ∧
            output.code ≠ 0) ↔ interval = some 0) ∧
        (interval ≠ some 0 →
          (∀ bound, maxIterations = some bound → ∃ fuel output,
            CommandLine.session? fuel files filter arguments = some output ∧ output.code = 0) ∧
          (maxIterations ≠ some 0 → ∀ steps,
            .read ∈ CommandLine.callsWithin steps files arguments))) ∧
      (∀ fuel output, CommandLine.session? fuel files filter arguments = some output →
        output.code ≠ 0 →
          ∃ error, CommandLine.Fails files (path.getD CommandLine.defaultPath) command error) ∧
      ∀ error, CommandLine.Fails files (path.getD CommandLine.defaultPath) command error →
        (∀ fuel, CommandLine.session? fuel files filter arguments =
          some { code := 1, out := "", err := CommandLine.unlines ["Error: " ++ error.message] }) ∧
        ∀ steps, CommandLine.callsWithin steps files arguments = [] := by
  refine ⟨?intents, ?texts, ?files, ?sessions⟩
  case intents =>
    intro part config
    exact ⟨ServiceConfig.exists_toIntent_iff, fun _ => ServiceConfig.toIntent_eq_ok_iff.mp⟩
  case texts =>
    intro text config read
    exact (Config.valid_of_ofText read).runnable
  case files =>
    intro files path config loaded
    exact (Config.valid_of_load loaded).runnable
  case sessions =>
    intro files filter arguments path command asked
    refine ⟨?_, fun fuel output => CommandLine.fails_of_session? asked, fun error fails =>
      ⟨CommandLine.session?_of_fails asked fails, CommandLine.callsWithin_of_fails asked fails⟩⟩
    rintro config interval maxIterations rfl loaded
    have loaded := CommandLine.loadConfig_eq_ok_iff.mpr loaded
    refine ⟨CommandLine.run_fails_iff asked loaded, fun positive => ⟨?_, fun room =>
      CommandLine.read_mem_callsWithin asked loaded positive room⟩⟩
    rintro bound rfl
    exact CommandLine.run_ends_well asked loaded positive

/-- A file that is a configuration, and a folder that is none, with an interval of zero. -/
theorem sessions_of_lookalike :
    let files : FileReader := fun _ => .ok Config.lookalike.toJson.pretty.toUTF8
    Config.ofText Config.lookalike.toJson.pretty = .ok Config.lookalike ∧
      Config.lookalike.Runnable ∧
      (∀ filter fuel, CommandLine.session? fuel files filter ["run", "--interval-secs=0"] =
        some { code := 1, err := "Error: --interval-secs must be greater than 0\n" }) ∧
      (∀ filter fuel, CommandLine.session? fuel (fun _ => .error .isADirectory) filter
          ["run", "--interval-secs=0"] =
        some { code := 1, err := "Error: ./input.yml: Failed to read config file: " ++
          "Is a directory (os error 21)\n" }) ∧
      ∀ filter, ∃ fuel output,
        CommandLine.session? fuel files filter ["run", "--max-iterations=2"] = some output ∧
          output.code = 0 := by
  intro files
  have zero : Request.ofArguments ["run", "--interval-secs=0"] =
      .ok (.command none (.run (some 0) none)) := by
    have spelled : CommandLine.runOptionTexts (some 0) none = ["--interval-secs=0"] := by
      show [CommandLine.Switch.intervalSecs.withValue (Decimal.text 0)] = _
      rw [Decimal.text, Decimal.digits]
      rfl
    rw [← spelled]
    exact CommandLine.ofArguments_run (some 0) none
  have bounded : Request.ofArguments ["run", "--max-iterations=2"] =
      .ok (.command none (.run none (some 2))) := by
    have spelled : CommandLine.runOptionTexts none (some 2) = ["--max-iterations=2"] := by
      show [CommandLine.Switch.maxIterations.withValue (Decimal.text 2)] = _
      rw [Decimal.text, Decimal.digits]
      rfl
    rw [← spelled]
    exact CommandLine.ofArguments_run none (some 2)
  have read := Config.ofText_pretty Config.valid_lookalike Config.portable_lookalike
  have loaded := Config.loadConfig_of_ofText read CommandLine.defaultPath
  have missing : CommandLine.loadConfig (fun _ => .error .isADirectory) CommandLine.defaultPath =
      .error (.config CommandLine.defaultPath (.file .isADirectory)) := rfl
  obtain ⟨-, texts, -, sessions⟩ := loaded_configuration_runs
  refine ⟨read, texts _ _ read, fun filter fuel => ?_, fun filter fuel => ?_, fun filter => ?_⟩
  · exact ((sessions files filter _ _ _ zero).2.2 _ (.interval none loaded)).1 fuel
  · exact ((sessions _ filter _ _ _ zero).2.2 _ (.config missing)).1 fuel
  · exact (((sessions files filter _ _ _ bounded).1 _ none (some 2) rfl
      (CommandLine.loadConfig_eq_ok_iff.mp loaded)).2 nofun).1 2 rfl

end ClosedLoop
