import ClosedLoop.Config

/-!
# Rules of a configuration

A configuration is refused at the first rule it breaks: a blank host name, an unusable intent, an
unusable initial state, a zero interval, a zero timeout, a longest delay below the interval.
-/

namespace ClosedLoop

/-- A section that describes a service. -/
inductive ServiceSection where
  | intent
  | initialState
  deriving DecidableEq, Repr

/-- The path of a section in the document. -/
def ServiceSection.path : ServiceSection → String
  | intent => "intent"
  | initialState => "simulation.initial_state"

/-- A rule of the configuration that a document breaks. -/
inductive ConfigFault where
  | hostnameBlank
  | serviceBlank (part : ServiceSection)
  | portOutOfRange (part : ServiceSection) (port : Nat)
  | intervalZero
  | applyTimeoutZero
  | backoffBelowInterval (maxSecs intervalSecs : Nat)
  deriving DecidableEq, Repr

namespace ConfigFault

def text : ConfigFault → String
  | hostnameBlank => "device.hostname must not be empty"
  | serviceBlank part => part.path ++ ".service must not be empty"
  | portOutOfRange part port =>
    part.path ++ ".port must be between 1 and 65535, got " ++ Text.Decimal.text port
  | intervalZero => "controller.interval_secs must be greater than 0"
  | applyTimeoutZero => "controller.apply_timeout_secs must be greater than 0"
  | backoffBelowInterval maxSecs intervalSecs =>
    "controller.backoff.max_secs (" ++ Text.Decimal.text maxSecs ++
      ") must not be below controller.interval_secs (" ++ Text.Decimal.text intervalSecs ++ ")"

end ConfigFault

/-- The rule that a section on a service breaks, if any. -/
def ServiceConfig.fault? (part : ServiceSection) (config : ServiceConfig) : Option ConfigFault :=
  if Text.isBlank config.service then some (.serviceBlank part)
  else if 1 ≤ config.port.toNat && config.port.toNat ≤ 65535 then none
  else some (.portOutOfRange part config.port.toNat)

/-- The rule that the timing breaks, if any. -/
def ControllerConfig.fault? (config : ControllerConfig) : Option ConfigFault :=
  if config.intervalSecs = 0 then some .intervalZero
  else if config.applyTimeoutSecs = 0 then some .applyTimeoutZero
  else if config.backoff.enabled && config.backoff.maxSecs < config.intervalSecs then
    some (.backoffBelowInterval config.backoff.maxSecs.toNat config.intervalSecs.toNat)
  else none

/-- The first rule that a configuration breaks, if any. -/
def Config.fault? (config : Config) : Option ConfigFault :=
  if Text.isBlank config.device.hostname then some .hostnameBlank
  else
    (config.intent.fault? .intent).or <|
      (config.simulation.initialState.fault? .initialState).or config.controller.fault?

/-- Breaks no rule. -/
def Config.Valid (config : Config) : Prop :=
  config.fault? = none

instance (config : Config) : Decidable config.Valid :=
  inferInstanceAs (Decidable (config.fault? = none))

end ClosedLoop
