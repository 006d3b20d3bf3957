import ClosedLoop.Intent

/-!
# Configuration

The document an operator writes: the device, the service it is meant to run, the timing of the
loop and the device that stands in for a real one. All but the first two sections have defaults.
-/

namespace ClosedLoop

/-- The device by name and platform. -/
structure DeviceConfig where
  hostname : String
  platform : String
  deriving DecidableEq, Repr

/-- A service as written in the document. -/
structure ServiceConfig where
  service : String
  port : UInt32
  tls : Bool
  deriving DecidableEq, Repr

/-- Whether delays grow after failures, and up to how many seconds. -/
structure BackoffConfig where
  enabled : Bool := true
  maxSecs : UInt64 := 60
  deriving DecidableEq, Repr

/-- The timing of the loop in seconds. -/
structure ControllerConfig where
  intervalSecs : UInt64 := 5
  applyTimeoutSecs : UInt64 := 10
  backoff : BackoffConfig := {}
  deriving DecidableEq, Repr

/-- The state in which a simulated device starts if none is written. -/
def ServiceConfig.initial : ServiceConfig := ⟨"grpc", 57777, false⟩

/-- The device that stands in for a real one. -/
structure SimulationConfig where
  initialState : ServiceConfig := .initial
  rejectFirstApplies : UInt32 := 0
  deriving DecidableEq, Repr

/-- A whole configuration. -/
structure Config where
  device : DeviceConfig
  intent : ServiceConfig
  controller : ControllerConfig := {}
  simulation : SimulationConfig := {}
  deriving DecidableEq, Repr

/-- The name under which a configuration is looked up in a directory. -/
def Config.fileName : String := "input.yml"

namespace ServiceConfig

/-- The port as a device takes it. -/
def port16? (config : ServiceConfig) : Except IntentFault UInt16 :=
  if config.port.toNat < UInt16.size then .ok config.port.toUInt16
  else .error (.portOutOfRange config.port.toNat)

/-- The intent that a section describes. -/
def toIntent (config : ServiceConfig) : Except IntentFault Intent :=
  match config.port16? with
  | .ok port => Intent.create config.service port config.tls
  | .error fault => .error fault

/-- The state that a section describes, whatever its service is named. -/
def toState (config : ServiceConfig) : Except IntentFault OperationalState :=
  match config.port16? with
  | .ok port => .ok ⟨config.service, port, config.tls⟩
  | .error fault => .error fault

end ServiceConfig

end ClosedLoop
