import ClosedLoop.Proofs.Restating
import ClosedLoop.Proofs.Runnable

/-!
# Ports of any size

A number that is written for a port comes through every layer or is refused by one: the reading
takes what 32 bits hold, the rules what a port may be, and the devices take it over as it is. None
of them cuts a number down.

* `Yaml.Tree.ReplacedAt` — a tree with another value in one place
* `Yaml.Tree.config?_replaced` — the configuration it holds, with that value as its port
* `Config.fault?_withPort`, `Config.Valid.serves` — the rule that a port breaks, and what has it
  otherwise
* `Config.ofText_of_port` — what becomes of a number in the place of a port
-/

namespace ClosedLoop

open Yaml (Document Scalar Tree)

/-! ## Values in place -/

/-- The keys that lead to the port of a section. -/
def ServiceSection.portKeys : ServiceSection → List String
  | intent => ["intent", "port"]
  | initialState => ["simulation", "initial_state", "port"]

/-- The configuration with another port in a section. -/
def Config.withPort (part : ServiceSection) (config : Config) (port : UInt32) : Config :=
  match part with
  | .intent => { config with intent.port := port }
  | .initialState => { config with simulation.initialState.port := port }

namespace Yaml.Tree

/-- A tree with another value in one place, to which keys lead. -/
inductive ReplacedAt (old new : Tree) : List String → Tree → Tree → Prop where
  | here : ReplacedAt old new [] old new
  | inside {name : String} {names : List String} {key value value' : Tree}
      {before behind : List (Tree × Tree)} (named : key.key? = some name.toList)
      (replaced : ReplacedAt old new names value value') :
      ReplacedAt old new (name :: names) (.mapping (before ++ (key, value) :: behind))
        (.mapping (before ++ (key, value') :: behind))

section

variable {α : Type} {holds : Tree → Option α} {name other : String} {key value : Tree}
  {before behind : List (Tree × Tree)} (value' : Tree)

/-- A value that is read under a key is the only one there, and so is another in its place. -/
theorem field?_at {written : Option α} (named : key.key? = some name.toList)
    (read : field? holds name (before ++ (key, value) :: behind) = some written) :
    ∃ a, written = some a ∧ holds value = some a ∧
      field? holds name (before ++ (key, value') :: behind) = (holds value').map some := by
  rw [field?_perm List.perm_middle, field?, values_cons_of_key named] at read
  rw [field?_perm List.perm_middle, field?, values_cons_of_key named]
  cases others : values name (before ++ behind) with
  | nil =>
    rw [others] at read
    obtain ⟨a, held, rfl⟩ := Option.map_eq_some_iff.mp read
    exact ⟨a, rfl, held, rfl⟩
  | cons another more =>
    rw [others] at read
    cases read

/-- What is under other keys stays. -/
theorem field?_beside (named : key.key? = some name.toList) (names : other ≠ name) :
    field? holds other (before ++ (key, value') :: behind) =
      field? holds other (before ++ (key, value) :: behind) := by
  have differs : key.key? ≠ some other.toList := fun same =>
    names (String.toList_inj.mp (Option.some.inj (same.symm.trans named)))
  rw [field?_perm List.perm_middle, field?_perm (List.perm_middle (a := (key, value))), field?,
    field?, values_cons_of_other differs, values_cons_of_other differs]

/-- The entries of a section with another value. -/
theorem section?_at {entries : List (Tree × Tree)}
    (written : (mapping (before ++ (key, value) :: behind)).section? = some entries) :
    entries = before ++ (key, value) :: behind ∧
      (mapping (before ++ (key, value') :: behind)).section? =
        some (before ++ (key, value') :: behind) := by
  obtain ⟨same, keyed⟩ := section?_eq_some_iff.mp written
  cases same
  refine ⟨rfl, section?_eq_some_iff.mpr ⟨rfl, ?_⟩⟩
  rw [AreKeyed.perm List.perm_middle] at keyed ⊢
  exact areKeyed_cons_iff.mp keyed

end

/-! ## Sections with another value -/

section

variable {key value value' : Tree} {before behind : List (Tree × Tree)}

theorem service?_at {config : ServiceConfig} (named : key.key? = some "port".toList)
    (read : (mapping (before ++ (key, value) :: behind)).service? = some config) :
    (mapping (before ++ (key, value') :: behind)).service? =
      value'.word32?.map fun port => { config with port } := by
  simp only [service?, Option.bind_eq_bind, Option.bind_eq_some_iff, required?_eq_some_iff,
    Option.pure_def, Option.some.injEq] at read
  obtain ⟨entries, written, service, s, port, p, tls, t, rfl⟩ := read
  obtain ⟨rfl, written'⟩ := section?_at value' written
  obtain ⟨_, ⟨⟩, -, another⟩ := field?_at value' named p
  rw [← field?_beside value' named (by decide)] at s t
  simp only [service?, written', Option.bind_eq_bind, Option.bind_some, required?, s, another, t]
  cases value'.word32? <;> rfl

theorem simulation?_at {config : SimulationConfig}
    (named : key.key? = some "initial_state".toList)
    (read : (mapping (before ++ (key, value) :: behind)).simulation? = some config) :
    value.service? = some config.initialState ∧
      (mapping (before ++ (key, value') :: behind)).simulation? =
        value'.service?.map fun initialState => { config with initialState } := by
  simp only [simulation?, Option.bind_eq_bind, Option.bind_eq_some_iff, optional?_eq_some_iff,
    Option.pure_def, Option.some.injEq] at read
  obtain ⟨entries, written, _, ⟨initial, i, rfl⟩, _, ⟨rejects, r, rfl⟩, rfl⟩ := read
  obtain ⟨rfl, written'⟩ := section?_at value' written
  obtain ⟨_, rfl, held, another⟩ := field?_at value' named i
  rw [← field?_beside value' named (by decide)] at r
  refine ⟨held, ?_⟩
  simp only [simulation?, written', Option.bind_eq_bind, Option.bind_some, optional?, another, r]
  cases value'.service? <;> rfl

theorem config?_at_intent {config : Config} (named : key.key? = some "intent".toList)
    (read : (mapping (before ++ (key, value) :: behind)).config? = some config) :
    value.service? = some config.intent ∧
      (mapping (before ++ (key, value') :: behind)).config? =
        value'.service?.map fun intent => { config with intent } := by
  simp only [config?, Option.bind_eq_bind, Option.bind_eq_some_iff, required?_eq_some_iff,
    optional?_eq_some_iff, Option.pure_def, Option.some.injEq] at read
  obtain ⟨entries, written, device, d, intent, i, _, ⟨controller, c, rfl⟩, _,
    ⟨simulation, s, rfl⟩, rfl⟩ := read
  obtain ⟨rfl, written'⟩ := section?_at value' written
  obtain ⟨_, ⟨⟩, held, another⟩ := field?_at value' named i
  rw [← field?_beside value' named (by decide)] at d c s
  refine ⟨held, ?_⟩
  simp only [config?, written', Option.bind_eq_bind, Option.bind_some, required?, optional?, d,
    another, c, s]
  cases value'.service? <;> rfl

theorem config?_at_simulation {config : Config} (named : key.key? = some "simulation".toList)
    (read : (mapping (before ++ (key, value) :: behind)).config? = some config) :
    value.simulation? = some config.simulation ∧
      (mapping (before ++ (key, value') :: behind)).config? =
        value'.simulation?.map fun simulation => { config with simulation } := by
  simp only [config?, Option.bind_eq_bind, Option.bind_eq_some_iff, required?_eq_some_iff,
    optional?_eq_some_iff, Option.pure_def, Option.some.injEq] at read
  obtain ⟨entries, written, device, d, intent, i, _, ⟨controller, c, rfl⟩, _,
    ⟨simulation, s, rfl⟩, rfl⟩ := read
  obtain ⟨rfl, written'⟩ := section?_at value' written
  obtain ⟨_, rfl, held, another⟩ := field?_at value' named s
  rw [← field?_beside value' named (by decide)] at d i c
  refine ⟨held, ?_⟩
  simp only [config?, written', Option.bind_eq_bind, Option.bind_some, required?, optional?, d, i,
    c, another]
  cases value'.simulation? <;> rfl

end

/-- The configuration of a tree with another value as a port: with that port, if it is one. -/
theorem config?_replaced {old new tree tree' : Tree} {part : ServiceSection} {config : Config}
    (replaced : ReplacedAt old new part.portKeys tree tree') (read : tree.config? = some config) :
    tree'.config? = new.word32?.map (config.withPort part) := by
  cases part with
  | intent =>
    obtain _ | ⟨named, _ | ⟨named', ⟨⟩⟩⟩ := replaced
    obtain ⟨intent, config⟩ := config?_at_intent named read
    rw [config, service?_at named' intent]
    cases new.word32? <;> rfl
  | initialState =>
    obtain _ | ⟨named, _ | ⟨named', _ | ⟨named'', ⟨⟩⟩⟩⟩ := replaced
    obtain ⟨simulation, config⟩ := config?_at_simulation named read
    obtain ⟨initial, simulation⟩ := simulation?_at named' simulation
    rw [config, simulation, service?_at named'' initial]
    cases new.word32? <;> rfl

end Yaml.Tree

/-! ## Ports -/

/-- A section whose service is named breaks the rule on ports or none. -/
theorem ServiceConfig.fault?_of_named {config : ServiceConfig}
    (named : Text.isBlank config.service = false) (part : ServiceSection) :
    config.fault? part =
      if 1 ≤ config.port.toNat ∧ config.port.toNat ≤ 65535 then none
      else some (.portOutOfRange part config.port.toNat) := by
  simp only [fault?, named, Bool.false_eq_true, if_false, Bool.and_eq_true, decide_eq_true_eq]

namespace Config

variable {part : ServiceSection} {config : Config} {port : UInt32}

/-- A section on a service. -/
def service (config : Config) : ServiceSection → ServiceConfig
  | .intent => config.intent
  | .initialState => config.simulation.initialState

/-- What is made of a section has a port: the intent, or the device that stands in. -/
def Serves (config : Config) (port : Nat) : ServiceSection → Prop
  | .intent => ∃ intent, config.intent.toIntent = .ok intent ∧ intent.port.toNat = port
  | .initialState =>
    ∃ device, SimulatedDevice.ofConfig config = .ok device ∧ device.state.port.toNat = port

theorem port_service_withPort : ((config.withPort part port).service part).port = port := by
  cases part <;> rfl

/-- What is made of a configuration that breaks no rule has the ports that it says. -/
theorem Valid.serves (valid : config.Valid) (part : ServiceSection) :
    config.Serves (config.service part).port.toNat part := by
  cases part with
  | intent =>
    obtain ⟨intent, made, describes⟩ := valid.runnable.intent
    exact ⟨intent, made, describes.2.1⟩
  | initialState =>
    obtain ⟨device, made, -, describes, -⟩ := valid.runnable.device
    exact ⟨device, made, describes.2.1⟩

/-- With another port, a configuration that broke no rule breaks the one on ports at the most. -/
theorem fault?_withPort (valid : config.Valid) :
    (config.withPort part port).fault? =
      if 1 ≤ port.toNat ∧ port.toNat ≤ 65535 then none
      else some (.portOutOfRange part port.toNat) := by
  obtain ⟨hostname, intent, initial, controller⟩ := valid_iff.mp valid
  cases part with
  | intent =>
    have named : Text.isBlank ({ config.intent with port } : ServiceConfig).service = false :=
      (ServiceConfig.fault?_eq_none_iff.mp intent).1
    have asked := ServiceConfig.fault?_of_named named .intent
    simp only [fault?, withPort, hostname, Bool.false_eq_true, if_false, asked, initial, controller,
      Option.or_none]
  | initialState =>
    have named : Text.isBlank
        ({ config.simulation.initialState with port } : ServiceConfig).service = false :=
      (ServiceConfig.fault?_eq_none_iff.mp initial).1
    have first := ServiceConfig.fault?_of_named named .initialState
    simp only [fault?, withPort, hostname, Bool.false_eq_true, if_false, intent, first, controller,
      Option.or_none, Option.none_or]

section

variable {text' : String} {tree' : Tree} {n : Nat}
  (composed' : (Document.ofText text').IsComposed tree')
  (read : tree'.config? = (Json.number n).tree.word32?.map (config.withPort part))
include composed' read

/-- A number of 32 bits in the place of a port is taken as it is, or refused by its value. -/
theorem ofText_of_word (valid : config.Valid) (fits : n < UInt32.size) : ofText text' =
    if 1 ≤ n ∧ n ≤ 65535 then .ok (config.withPort part n.toUInt32)
    else .error (.invalid (.portOutOfRange part n)) := by
  have same : n.toUInt32.toNat = n := UInt32.toNat_ofNat_of_lt' fits
  rw [Json.word32?_tree, if_pos fits, Option.map_some] at read
  rw [ofText_eq_accept, accept_of_config? composed' read, fault?_withPort valid, same]
  by_cases range : 1 ≤ n ∧ n ≤ 65535
  · rw [if_pos range, if_pos range]
  · rw [if_neg range, if_neg range]

/-- A number of more than 32 bits in the place of a port is not read. -/
theorem ofText_of_long (long : UInt32.size ≤ n) :
    ∃ failure, ofText text' = .error (.parse failure) := by
  rw [Json.word32?_tree, if_neg (Nat.not_lt.mpr long), Option.map_none] at read
  exact accept_of_config?_eq_none composed' read

end

/--
What becomes of a number in the place of a port, in decimal and of any size: where it can be a port
it is the one of the configuration and of what is made of it, the rules refuse it by its value where
32 bits hold it, and the reading refuses any other.
-/
theorem ofText_of_port {text text' : String} {tree tree' old : Tree} {n : Nat}
    (composed : (Document.ofText text).IsComposed tree)
    (composed' : (Document.ofText text').IsComposed tree') (taken : ofText text = .ok config)
    (replaced : Tree.ReplacedAt old (.scalar ⟨none, .plain, Text.Decimal.digits n⟩) part.portKeys
      tree tree') :
    ((∃ config', ofText text' = .ok config') ↔ 1 ≤ n ∧ n ≤ 65535) ∧
      (∀ config', ofText text' = .ok config' → config' = config.withPort part n.toUInt32 ∧
        (config'.service part).port.toNat = n ∧ config'.Serves n part) ∧
      (n = 0 ∨ 65536 ≤ n ∧ n < 2 ^ 32 →
        ofText text' = .error (.invalid (.portOutOfRange part n)) ∧
          (ConfigError.invalid (.portOutOfRange part n)).message =
            "Invalid config: " ++ (part.path ++ ".port must be between 1 and 65535, got " ++
              Text.Decimal.text n)) ∧
      (2 ^ 32 ≤ n → ∃ failure, ofText text' = .error (.parse failure)) := by
  obtain ⟨held, valid⟩ := (accept_eq_ok_iff composed).mp taken
  have read : tree'.config? = (Json.number n).tree.word32?.map (config.withPort part) :=
    Tree.config?_replaced replaced held
  have size : UInt32.size = 2 ^ 32 := rfl
  rcases Nat.lt_or_ge n UInt32.size with fits | long
  · have result := ofText_of_word composed' read valid fits
    by_cases range : 1 ≤ n ∧ n ≤ 65535
    · rw [if_pos range] at result
      have kept : ((config.withPort part n.toUInt32).service part).port.toNat = n := by
        rw [port_service_withPort]
        exact UInt32.toNat_ofNat_of_lt' fits
      have serves := (valid_of_ofText result).serves part
      rw [kept] at serves
      refine ⟨iff_of_true ⟨_, result⟩ range, fun config' taken' => ?_, fun outside => by omega,
        fun long => by omega⟩
      cases taken'.symm.trans result
      exact ⟨rfl, kept, serves⟩
    · rw [if_neg range] at result
      have refused (config' : Config) : ofText text' ≠ .ok config' := by
        rw [result]
        exact nofun
      exact ⟨iff_of_false (fun ⟨config', taken'⟩ => refused config' taken') range,
        fun config' taken' => absurd taken' (refused config'), fun _ => ⟨result, rfl⟩,
        fun long => by omega⟩
  · obtain ⟨failure, fails⟩ := ofText_of_long composed' read long
    have refused (config' : Config) : ofText text' ≠ .ok config' := by
      rw [fails]
      exact nofun
    exact ⟨iff_of_false (fun ⟨config', taken'⟩ => refused config' taken') (by omega),
      fun config' taken' => absurd taken' (refused config'), fun short => by omega,
      fun _ => ⟨failure, fails⟩⟩

namespace Brief

/-- The brief document with another number as its port. -/
def withPort (n : Nat) : Json :=
  .object [("device", device),
    ("intent", .object [("service", .text "gnmi"), ("port", .number n), ("tls", .flag true)])]

theorem isComposed_withPort (n : Nat) :
    (Document.ofText (withPort n).pretty).IsComposed (withPort n).tree :=
  isComposed_of_object ⟨named "device" (by decide), isPortable_device,
    named "intent" (by decide), ⟨named "service" (by decide), portable "gnmi" (by decide),
      named "port" (by decide), trivial, named "tls" (by decide), trivial, trivial⟩, trivial⟩

theorem replaced_withPort (n : Nat) :
    Tree.ReplacedAt (Json.number 57400).tree (Json.number n).tree ServiceSection.intent.portKeys
      whole.tree (withPort n).tree := by
  have inner : Tree.ReplacedAt (Json.number 57400).tree (Json.number n).tree ["port"] intent.tree
      (Json.object [("service", .text "gnmi"), ("port", .number n), ("tls", .flag true)]).tree :=
    @Tree.ReplacedAt.inside _ _ "port" [] _ _ _ (Json.memberTrees [("service", .text "gnmi")])
      (Json.memberTrees [("tls", .flag true)]) rfl .here
  exact @Tree.ReplacedAt.inside _ _ "intent" ["port"] _ _ _ (Json.memberTrees [("device", device)])
    [] rfl inner

end Brief

/-- Of numbers that are the same in 16 bits, only the least is a port. -/
theorem ports_of_brief :
    (∃ config, ofText (Brief.withPort 443).pretty = .ok config ∧ config.Serves 443 .intent) ∧
      ofText (Brief.withPort 65979).pretty = .error (.invalid (.portOutOfRange .intent 65979)) ∧
      ∃ failure, ofText (Brief.withPort 4294967739).pretty = .error (.parse failure) := by
  have ports (n : Nat) := ofText_of_port Brief.isComposed_whole (Brief.isComposed_withPort n)
    Brief.ofText_whole (Brief.replaced_withPort n)
  obtain ⟨config, taken⟩ := (ports 443).1.mpr (by decide)
  exact ⟨⟨config, taken, ((ports 443).2.1 config taken).2.2⟩,
    ((ports 65979).2.2.1 (.inr (by decide))).1, (ports 4294967739).2.2.2 (by decide)⟩

end Config

end ClosedLoop
