import ClosedLoop.Intent

/-!
# Compliance

A device is compliant when every field of its state is the intent's. Otherwise the drift report
lists the fields that differ, in the order service, port, TLS, with both values in text.
-/

namespace ClosedLoop

/-- A field of the state that can differ. -/
inductive Field where
  | service
  | port
  | tls
  deriving DecidableEq, Repr

namespace Field

def name : Field → String
  | service => "service"
  | port => "port"
  | tls => "tls"

/-- All fields in the order of the report. -/
def all : List Field := [service, port, tls]

end Field

/-- The text of a truth value. -/
def boolText (b : Bool) : String :=
  if b then "true" else "false"

/-- The text of one field of a state. -/
def OperationalState.fieldText (state : OperationalState) : Field → String
  | .service => state.service
  | .port => Text.Decimal.text state.port.toNat
  | .tls => boolText state.tls

/-- A field whose value on the device is not the intended one. -/
structure FieldDrift where
  field : Field
  observed : String
  desired : String
  deriving DecidableEq, Repr

namespace FieldDrift

def text (drift : FieldDrift) : String :=
  drift.field.name ++ ": " ++ drift.observed ++ " -> " ++ drift.desired

end FieldDrift

/-- Every field of the state is the intended one. -/
def isCompliant (intent : Intent) (state : OperationalState) : Bool :=
  intent.service == state.service && intent.port == state.port && intent.tls == state.tls

/-- Whether one field of the state is not the intended one. -/
def differs (intent : Intent) (state : OperationalState) : Field → Bool
  | .service => intent.service != state.service
  | .port => intent.port != state.port
  | .tls => intent.tls != state.tls

/-- The fields that differ, each with its observed and its desired text. -/
def detectDrift (intent : Intent) (state : OperationalState) : List FieldDrift :=
  (Field.all.filter (differs intent state)).map fun field =>
    ⟨field, state.fieldText field, intent.state.fieldText field⟩

theorem isCompliant_iff {intent : Intent} {state : OperationalState} :
    isCompliant intent state = true ↔ state = intent.state := by
  cases state
  simp only [isCompliant, Bool.and_eq_true, beq_iff_eq, Intent.state, OperationalState.mk.injEq]
  constructor
  · rintro ⟨⟨rfl, rfl⟩, rfl⟩
    exact ⟨rfl, rfl, rfl⟩
  · rintro ⟨rfl, rfl, rfl⟩
    exact ⟨⟨rfl, rfl⟩, rfl⟩

/-- The report is empty exactly where the state is the intended one. -/
theorem detectDrift_eq_nil_iff {intent : Intent} {state : OperationalState} :
    detectDrift intent state = [] ↔ state = intent.state := by
  rw [← isCompliant_iff, detectDrift, List.map_eq_nil_iff, List.filter_eq_nil_iff]
  simp [Field.all, differs, isCompliant, and_assoc]

end ClosedLoop
