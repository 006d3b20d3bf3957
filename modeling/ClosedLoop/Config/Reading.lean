import ClosedLoop.Config
import ClosedLoop.Config.Failure

/-!
# Reading a configuration

A configuration is read off the tree of a document from its beginning to its end, and the first
thing that is wrong is reported. A mapping stands for a section; so does an empty plain scalar, for
one in which nothing is written. Unknown keys are passed over with their values, a known key may
stand only once, and what is missing is noticed at the end of the mapping.

The answer counts only if the document was well-formed to its end.
-/

namespace ClosedLoop

open Yaml (Document Node Scalar Value)

/-- The outcome of reading a node. -/
abbrev Reading (α : Type) := Except Failure α

/-- The failure at a node. -/
def Site.fail {α : Type} (site : Site) (fault : Fault) : Reading α :=
  .error (.node site fault)

namespace Yaml.Node

/-- The place of a node that is neither an alias nor cut off. -/
def start : Node → Position
  | .scalar start _ | .sequence start _ | .mapping start _ | .nothing start => start
  | .alias _ | .cut => {}

end Yaml.Node

/-! ## Scalars -/

/-- The failure at a scalar that is not what is asked for. -/
def Site.failAtScalar {α : Type} (site : Site) (scalar : Scalar) (expected : Expected) : Reading α :=
  match scalar.value with
  | .ok value => site.fail (.invalidType (.value value) expected)
  | .error kind => site.fail (.invalidValue (.value (.string scalar.text)) (.kind kind))

/-- Reads a scalar, and fails at other nodes. -/
def readScalar {α : Type} (document : Document) (path : Path) (expected : Expected)
    (read : Site → Scalar → Reading α) (node : Node) : Reading α :=
  match document.follow node with
  | .scalar start scalar => read ⟨path, start⟩ scalar
  | .sequence start _ => Site.fail ⟨path, start⟩ (.invalidType .sequence expected)
  | .mapping start _ => Site.fail ⟨path, start⟩ (.invalidType .mapping expected)
  | .nothing _ | .alias _ | .cut => .error .document

/-- Reads any scalar as the text that is written. -/
def readText (document : Document) (path : Path) (node : Node) : Reading String :=
  readScalar document path .text (fun _ scalar => .ok (String.ofList scalar.text)) node

/-- Reads a key of a mapping. -/
def readKey (document : Document) (path : Path) (node : Node) : Reading (List Char) :=
  readScalar document path .key (fun _ scalar => .ok scalar.text) node

/-- Reads a truth value. -/
def readFlag (document : Document) (path : Path) (node : Node) : Reading Bool :=
  readScalar document path .flag
    (fun site scalar =>
      match if scalar.mayBe .bool then Yaml.bool? scalar.text else none with
      | some b => .ok b
      | none => site.failAtScalar scalar .flag)
    node

/-- Reads a number of 64 bits that is not negative. -/
def readNumber (document : Document) (path : Path) (expected : Expected) (bound : Nat)
    (node : Node) : Reading Nat :=
  readScalar document path expected
    (fun site scalar =>
      match if scalar.mayBe .integer then Yaml.unsigned? UInt64.size scalar.text else none with
      | some n =>
        if n < bound then .ok n
        else site.fail (.invalidValue (.value (.integer n)) expected)
      | none => site.failAtScalar scalar expected)
    node

def readWord32 (document : Document) (path : Path) (node : Node) : Reading UInt32 :=
  (readNumber document path .word32 UInt32.size node).map Nat.toUInt32

def readWord64 (document : Document) (path : Path) (node : Node) : Reading UInt64 :=
  (readNumber document path .word64 UInt64.size node).map Nat.toUInt64

/-! ## Sections -/

/-- What has been read of a section with fields `σ`, and how each key goes on. -/
structure Entry (σ : Type) where
  name : String
  /-- Whether the key has been read before. -/
  isRead : σ → Bool
  /-- Reads the value of the key. -/
  read : Path → Node → σ → Reading σ

/-- A key with a value of type `α`. -/
def Entry.make {σ α : Type} (name : String) (get : σ → Option α) (put : σ → α → σ)
    (read : Path → Node → Reading α) : Entry σ where
  name
  isRead fields := (get fields).isSome
  read path node fields := (read path node).map (put fields)

/-- The way to a value: its key as it is written, unless it is not a scalar itself. -/
def Path.below (path : Path) : Node → Path
  | .scalar _ scalar => some scalar.text :: path
  | _ => none :: path

/-- Reads the entries of a mapping in order. -/
def readEntries {σ : Type} (document : Document) (known : List (Entry σ)) (site : Site) :
    List (Node × Node) → σ → Reading σ
  | [], fields => .ok fields
  | (key, value) :: rest, fields =>
    match readKey document site.path key with
    | .error failure => .error failure
    | .ok name =>
      match known.find? (·.name.toList == name) with
      | none => readEntries document known site rest fields
      | some field =>
        if field.isRead fields then site.fail (.duplicateField field.name)
        else
          match field.read (site.path.below key) value fields with
          | .error failure => .error failure
          | .ok fields => readEntries document known site rest fields

/-- Reads a section: its entries in order, then what they amount to. -/
def readSection {σ α : Type} (document : Document) (path : Path) (expected : Expected)
    (known : List (Entry σ)) (blank : σ) (finish : Site → σ → Reading α) (node : Node) : Reading α :=
  let node := document.follow node
  let site : Site := ⟨path, node.start⟩
  match node with
  | .mapping _ entries =>
    match readEntries document known site entries blank with
    | .ok fields => finish site fields
    | .error failure => .error failure
  | .nothing _ => finish site blank
  | .scalar _ scalar =>
    if scalar.text.isEmpty && scalar.style == .plain then finish site blank
    else site.failAtScalar scalar expected
  | .sequence _ _ => site.fail (.invalidType .sequence expected)
  | .alias _ | .cut => .error .document

/-- The value of a key that has to be there. -/
def Site.require {α : Type} (site : Site) (name : String) : Option α → Reading α
  | some value => .ok value
  | none => site.fail (.missingField name)

/-! ## The sections of a configuration -/

/-- What has been read of a `device` section. -/
structure DeviceFields where
  hostname : Option String := none
  platform : Option String := none

def readDevice (document : Document) (path : Path) (node : Node) : Reading DeviceConfig :=
  readSection document path .device
    [.make "hostname" (·.hostname) (fun s v => { s with hostname := some v }) (readText document),
      .make "platform" (·.platform) (fun s v => { s with platform := some v }) (readText document)]
    ({} : DeviceFields)
    (fun site fields => do
      let hostname ← site.require "hostname" fields.hostname
      let platform ← site.require "platform" fields.platform
      return { hostname, platform })
    node

/-- What has been read of a section on a service. -/
structure ServiceFields where
  service : Option String := none
  port : Option UInt32 := none
  tls : Option Bool := none

def readService (document : Document) (path : Path) (node : Node) : Reading ServiceConfig :=
  readSection document path .service
    [.make "service" (·.service) (fun s v => { s with service := some v }) (readText document),
      .make "port" (·.port) (fun s v => { s with port := some v }) (readWord32 document),
      .make "tls" (·.tls) (fun s v => { s with tls := some v }) (readFlag document)]
    ({} : ServiceFields)
    (fun site fields => do
      let service ← site.require "service" fields.service
      let port ← site.require "port" fields.port
      let tls ← site.require "tls" fields.tls
      return { service, port, tls })
    node

/-- What has been read of a `backoff` section. -/
structure BackoffFields where
  enabled : Option Bool := none
  maxSecs : Option UInt64 := none

def readBackoff (document : Document) (path : Path) (node : Node) : Reading BackoffConfig :=
  readSection document path .backoff
    [.make "enabled" (·.enabled) (fun s v => { s with enabled := some v }) (readFlag document),
      .make "max_secs" (·.maxSecs) (fun s v => { s with maxSecs := some v }) (readWord64 document)]
    ({} : BackoffFields)
    (fun _ fields =>
      let standard : BackoffConfig := {}
      .ok {
        enabled := fields.enabled.getD standard.enabled
        maxSecs := fields.maxSecs.getD standard.maxSecs })
    node

/-- What has been read of a `controller` section. -/
structure ControllerFields where
  intervalSecs : Option UInt64 := none
  applyTimeoutSecs : Option UInt64 := none
  backoff : Option BackoffConfig := none

def readController (document : Document) (path : Path) (node : Node) : Reading ControllerConfig :=
  readSection document path .controller
    [.make "interval_secs" (·.intervalSecs) (fun s v => { s with intervalSecs := some v })
        (readWord64 document),
      .make "apply_timeout_secs" (·.applyTimeoutSecs)
        (fun s v => { s with applyTimeoutSecs := some v }) (readWord64 document),
      .make "backoff" (·.backoff) (fun s v => { s with backoff := some v }) (readBackoff document)]
    ({} : ControllerFields)
    (fun _ fields =>
      let standard : ControllerConfig := {}
      .ok {
        intervalSecs := fields.intervalSecs.getD standard.intervalSecs
        applyTimeoutSecs := fields.applyTimeoutSecs.getD standard.applyTimeoutSecs
        backoff := fields.backoff.getD standard.backoff })
    node

/-- What has been read of a `simulation` section. -/
structure SimulationFields where
  initialState : Option ServiceConfig := none
  rejectFirstApplies : Option UInt32 := none

def readSimulation (document : Document) (path : Path) (node : Node) : Reading SimulationConfig :=
  readSection document path .simulation
    [.make "initial_state" (·.initialState) (fun s v => { s with initialState := some v })
        (readService document),
      .make "reject_first_applies" (·.rejectFirstApplies)
        (fun s v => { s with rejectFirstApplies := some v }) (readWord32 document)]
    ({} : SimulationFields)
    (fun _ fields =>
      let standard : SimulationConfig := {}
      .ok {
        initialState := fields.initialState.getD standard.initialState
        rejectFirstApplies := fields.rejectFirstApplies.getD standard.rejectFirstApplies })
    node

/-- What has been read of a document. -/
structure ConfigFields where
  device : Option DeviceConfig := none
  intent : Option ServiceConfig := none
  controller : Option ControllerConfig := none
  simulation : Option SimulationConfig := none

def readConfig (document : Document) (node : Node) : Reading Config :=
  readSection document [] .config
    [.make "device" (·.device) (fun s v => { s with device := some v }) (readDevice document),
      .make "intent" (·.intent) (fun s v => { s with intent := some v }) (readService document),
      .make "controller" (·.controller) (fun s v => { s with controller := some v })
        (readController document),
      .make "simulation" (·.simulation) (fun s v => { s with simulation := some v })
        (readSimulation document)]
    ({} : ConfigFields)
    (fun site fields => do
      let device ← site.require "device" fields.device
      let intent ← site.require "intent" fields.intent
      return {
        device
        intent
        controller := fields.controller.getD {}
        simulation := fields.simulation.getD {} })
    node

/-! ## Whole configurations -/

/-- The configuration that a document holds, whatever rules it breaks. -/
def Config.ofDocument (document : Document) : Reading Config :=
  match readConfig document document.root with
  | .ok config => if document.complete then .ok config else .error .document
  | .error failure => .error failure

end ClosedLoop
