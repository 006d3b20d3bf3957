import ClosedLoop.Device.Simulated
import ClosedLoop.Timeline

/-!
# From a configuration to a loop

A configuration describes a loop on a simulated device, and the options under which it runs.
-/

namespace ClosedLoop

/-- The loop that a configuration describes, under the given options. -/
def Timeline.ofConfig (config : Config) (options : LoopOptions) :
    Except IntentFault (Timeline SimulatedDevice) :=
  match config.intent.toIntent with
  | .ok intent =>
    match SimulatedDevice.ofConfig config with
    | .ok device => .ok (Timeline.create device intent options)
    | .error fault => .error fault
  | .error fault => .error fault

end ClosedLoop
