import ClosedLoop.Duration
import ClosedLoop.Intent

/-!
# Errors of the enforcement loop

What can go wrong between the loop, a device and whoever asks the loop for work.
-/

namespace ClosedLoop

/-- What a device, an intent or the loop itself reports instead of a result. -/
inductive EnforcementError where
  | stateRead (reason : String)
  | apply (reason : String)
  | applyTimeout (limit : Duration)
  | invalidIntent (reason : String)
  | channelClosed
  deriving DecidableEq, Repr

namespace EnforcementError

/-- The text shown to an operator. -/
def message : EnforcementError → String
  | stateRead reason => "Failed to read operational state: " ++ reason
  | apply reason => "Failed to apply intent: " ++ reason
  | applyTimeout limit => "Applying intent timed out after " ++ limit.text
  | invalidIntent reason => "Invalid intent: " ++ reason
  | channelClosed => "Reconciler terminated"

/-- The error that reports an unusable intent. -/
def ofIntentFault (fault : IntentFault) : EnforcementError :=
  .invalidIntent fault.text

end EnforcementError

end ClosedLoop
