import ClosedLoop.Text.Blank
import ClosedLoop.Text.Decimal

/-!
# Intent and operational state

The operational state is what a device reports; the intent is what it is meant to run. An intent
names a service that is not blank and a port that is not zero, and it is refused otherwise.
-/

namespace ClosedLoop

/-- What a device reports to run: a service, its port and whether it uses TLS. -/
structure OperationalState where
  service : String
  port : UInt16
  tls : Bool
  deriving DecidableEq, Repr

instance : Inhabited OperationalState := ⟨"", 0, false⟩

/-- Why a service cannot be an intent. -/
inductive IntentFault where
  | serviceBlank
  | portZero
  | portOutOfRange (port : Nat)
  deriving DecidableEq, Repr

namespace IntentFault

def text : IntentFault → String
  | serviceBlank => "service must not be empty"
  | portZero => "port must be between 1 and 65535"
  | portOutOfRange port => "port must be between 1 and 65535, got " ++ Text.Decimal.text port

end IntentFault

/-- What a device is meant to run. -/
structure Intent where
  service : String
  port : UInt16
  tls : Bool
  service_named : Text.isBlank service = false
  port_ne_zero : port ≠ 0
  deriving DecidableEq, Repr

namespace Intent

@[ext] theorem ext {a b : Intent} (service : a.service = b.service) (port : a.port = b.port)
    (tls : a.tls = b.tls) : a = b := by
  cases a; cases b
  cases service; cases port; cases tls
  rfl

/-- An intent for a service; a blank name is reported before a zero port. -/
def create (service : String) (port : UInt16) (tls : Bool) : Except IntentFault Intent :=
  match named : Text.isBlank service with
  | true => .error .serviceBlank
  | false =>
    if zero : port = 0 then .error .portZero else .ok ⟨service, port, tls, named, zero⟩

/-- The state of a device that runs the intent. -/
def state (intent : Intent) : OperationalState :=
  ⟨intent.service, intent.port, intent.tls⟩

@[simp] theorem service_state (intent : Intent) : intent.state.service = intent.service := rfl

@[simp] theorem port_state (intent : Intent) : intent.state.port = intent.port := rfl

@[simp] theorem tls_state (intent : Intent) : intent.state.tls = intent.tls := rfl

end Intent

end ClosedLoop
