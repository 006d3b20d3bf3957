import ClosedLoop.Compliance
import ClosedLoop.EnforcementError

/-!
# Events of a loop

What a loop tells its reporter while it runs, in the order in which it happens.
-/

namespace ClosedLoop

/-- How an iteration ended. -/
inductive Outcome where
  /-- The device was as intended. -/
  | compliant
  /-- The device had drifted and took the intent. -/
  | converged
  /-- The device had drifted and did not take the intent. -/
  | applyFailed
  /-- The state of the device could not be read. -/
  | stateUnknown
  deriving DecidableEq, Repr

/-- What a loop has done since it was made. -/
structure Summary where
  iterations : Nat := 0
  applies : Nat := 0
  applyFailures : Nat := 0
  readFailures : Nat := 0
  deriving DecidableEq, Repr

/-- One report of a loop. -/
inductive Event where
  | start (device : String) (intent : Intent)
  | iteration (number : Nat)
  | compliant (number : Nat) (state : OperationalState)
  | drift (number : Nat) (fields : List FieldDrift)
  | applied (number : Nat) (state : OperationalState)
  | applyFailed (number : Nat) (error : EnforcementError) (failures : Nat)
  | readFailed (number : Nat) (error : EnforcementError)
  | waiting (delay : Duration)
  | stopped (summary : Summary)
  deriving DecidableEq, Repr

end ClosedLoop
