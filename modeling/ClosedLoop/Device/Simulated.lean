import ClosedLoop.Config
import ClosedLoop.Device

/-!
# Simulated device

A device that is only a state in memory. It refuses a given number of applies before it takes the
first one, and answers at once.
-/

namespace ClosedLoop

/-- A device in memory. -/
structure SimulatedDevice where
  name : String
  platform : String
  state : OperationalState
  /-- Applies that are still refused. -/
  rejectsRemaining : Nat := 0
  deriving DecidableEq, Repr

namespace SimulatedDevice

/-- The device that a configuration describes. -/
def ofConfig (config : Config) : Except IntentFault SimulatedDevice :=
  match config.simulation.initialState.toState with
  | .ok state =>
    .ok {
      name := config.device.hostname
      platform := config.device.platform
      state
      rejectsRemaining := config.simulation.rejectFirstApplies.toNat }
  | .error fault => .error fault

/-- The answer to a read. -/
def readAnswer (d : SimulatedDevice) : Answer :=
  ⟨.zero, .ok d.state⟩

/-- The beginning of an apply. -/
def startApply (d : SimulatedDevice) (intent : Intent) : SimulatedDevice × Answer :=
  match d.rejectsRemaining with
  | 0 => (d, ⟨.zero, .ok intent.state⟩)
  | n + 1 =>
    ({ d with rejectsRemaining := n },
      ⟨.zero, .error (.apply (d.name ++ " (" ++ d.platform ++ ") rejected the configuration"))⟩)

instance : Device SimulatedDevice where
  name d := d.name
  read _ d := (d, d.readAnswer)
  apply _ d intent := d.startApply intent
  commit d intent := { d with state := intent.state }

end SimulatedDevice

end ClosedLoop
