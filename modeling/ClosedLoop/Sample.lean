import ClosedLoop.Intent

/-!
# Samples

An intent and a state that differs from it in every field, to try things with.
-/

namespace ClosedLoop

/-- An intent. -/
def Intent.sample : Intent where
  service := "gnmi"
  port := 57400
  tls := true
  service_named := by decide
  port_ne_zero := by decide

/-- A state that is as the sample in no field. -/
def OperationalState.drifted : OperationalState := ⟨"grpc", 57777, false⟩

end ClosedLoop
