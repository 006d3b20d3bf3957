import ClosedLoop.Config
import ClosedLoop.Json

/-!
# Configurations as JSON

A configuration with every field written out, in the order in which the document names them.
-/

namespace ClosedLoop

def DeviceConfig.toJson (config : DeviceConfig) : Json :=
  .object [("hostname", .text config.hostname), ("platform", .text config.platform)]

def ServiceConfig.toJson (config : ServiceConfig) : Json :=
  .object [("service", .text config.service), ("port", .number config.port.toNat),
    ("tls", .flag config.tls)]

def BackoffConfig.toJson (config : BackoffConfig) : Json :=
  .object [("enabled", .flag config.enabled), ("max_secs", .number config.maxSecs.toNat)]

def ControllerConfig.toJson (config : ControllerConfig) : Json :=
  .object [("interval_secs", .number config.intervalSecs.toNat),
    ("apply_timeout_secs", .number config.applyTimeoutSecs.toNat),
    ("backoff", config.backoff.toJson)]

def SimulationConfig.toJson (config : SimulationConfig) : Json :=
  .object [("initial_state", config.initialState.toJson),
    ("reject_first_applies", .number config.rejectFirstApplies.toNat)]

def Config.toJson (config : Config) : Json :=
  .object [("device", config.device.toJson), ("intent", config.intent.toJson),
    ("controller", config.controller.toJson), ("simulation", config.simulation.toJson)]

end ClosedLoop
