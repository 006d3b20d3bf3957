import ClosedLoop.Compliance

/-!
# What a drift report holds

A report holds all that the state of a device and the intended one differ in, and nothing else: with
either of the two and the report the other one can be made, by reading back the texts of the report
into the fields that it names.

* `OperationalState.AgreesAt` — two states have the same value in a field
* `OperationalState.overwrite?` — a field of a state is written from a text
* `OperationalState.overwriteAll?_texts` — the texts of another state write its values
* `drift_report_exact_and_lossless` — verdict, report and intended state, and the way between states
-/

namespace ClosedLoop

open Text

namespace OperationalState

variable {a b c : OperationalState} {field : Field}

/-! ## Fields -/

/-- Two states have the same value in a field. -/
def AgreesAt (a b : OperationalState) : Field → Prop
  | .service => a.service = b.service
  | .port => a.port = b.port
  | .tls => a.tls = b.tls

theorem AgreesAt.symm (h : a.AgreesAt b field) : b.AgreesAt a field := by
  cases field <;> exact Eq.symm h

/-- States are the same that have the same value in every field. -/
theorem eq_of_agreesAt (h : ∀ field, a.AgreesAt b field) : a = b := by
  obtain ⟨service, port, tls⟩ := a
  obtain ⟨service', port', tls'⟩ := b
  cases show service = service' from h .service
  cases show port = port' from h .port
  cases show tls = tls' from h .tls
  rfl

/-- A state with one field as in another. -/
def withFieldOf (state other : OperationalState) : Field → OperationalState
  | .service => { state with service := other.service }
  | .port => { state with port := other.port }
  | .tls => { state with tls := other.tls }

/-- The field is then as in the other state, and all others are as they were. -/
theorem agreesAt_withFieldOf {written : Field} :
    (a.withFieldOf b written).AgreesAt c field ↔
      if field = written then b.AgreesAt c field else a.AgreesAt c field := by
  cases written <;> cases field <;> exact Iff.rfl

/-- A state with some of the fields as in another. -/
def withFieldsOf (state other : OperationalState) (fields : List Field) : OperationalState :=
  fields.foldl (withFieldOf · other) state

/-- Where all fields are written in which they differ, the other state comes out. -/
theorem withFieldsOf_eq {fields : List Field}
    (all : ∀ field, ¬a.AgreesAt b field → field ∈ fields) : a.withFieldsOf b fields = b := by
  induction fields generalizing a with
  | nil =>
    refine eq_of_agreesAt fun field => Classical.byContradiction fun differs => ?_
    exact nomatch all field differs
  | cons first rest ih =>
    -- The first field is now as in the other state, so what still differs is among the rest.
    refine ih fun field differs => ?_
    rw [agreesAt_withFieldOf] at differs
    split at differs
    · next same => cases field <;> exact absurd rfl differs
    · next other => exact (List.mem_cons.mp (all field differs)).resolve_left other

/-! ## Texts -/

/-- The port that a text writes in decimal. -/
def port? (text : String) : Option UInt16 :=
  match Decimal.read? 10 text.toList with
  | some n => if n < UInt16.size then some n.toUInt16 else none
  | none => none

/-- The truth value that a text names. -/
def flag? (text : String) : Option Bool :=
  if text = "true" then some true else if text = "false" then some false else none

/-- A state with one field as a text has it; `none` where the text has no value of this field. -/
def overwrite? (state : OperationalState) (text : String) : Field → Option OperationalState
  | .service => some { state with service := text }
  | .port => (port? text).map fun port => { state with port }
  | .tls => (flag? text).map fun tls => { state with tls }

/-- A state with one field after the other as the texts have it. -/
def overwriteAll? (state : OperationalState) : List (Field × String) → Option OperationalState
  | [] => some state
  | (field, text) :: rest => (state.overwrite? text field).bind (overwriteAll? · rest)

theorem port?_text (port : UInt16) : port? (Decimal.text port.toNat) = some port := by
  have digits : (Decimal.text port.toNat).toList = Decimal.digits port.toNat := String.toList_ofList
  have number : UInt16.ofNat port.toNat = port := UInt16.ofNat_toNat
  unfold port?
  rw [digits, Decimal.read?_digits]
  exact (if_pos port.toNat_lt).trans (congrArg some number)

theorem flag?_boolText (b : Bool) : flag? (boolText b) = some b := by
  cases b <;> rfl

/-- The text of a field is read back as its value. -/
theorem overwrite?_fieldText (state other : OperationalState) (field : Field) :
    state.overwrite? (other.fieldText field) field = some (state.withFieldOf other field) := by
  cases field with
  | service => rfl
  | port => rw [overwrite?, fieldText, port?_text]; rfl
  | tls => rw [overwrite?, fieldText, flag?_boolText]; rfl

/-- So the texts of another state write its values. -/
theorem overwriteAll?_texts (state other : OperationalState) (fields : List Field) :
    state.overwriteAll? (fields.map fun field => (field, other.fieldText field)) =
      some (state.withFieldsOf other fields) := by
  induction fields generalizing state with
  | nil => rfl
  | cons field rest ih =>
    rw [List.map_cons, overwriteAll?, overwrite?_fieldText]
    exact ih (state.withFieldOf other field)

/-- Different values have different texts. -/
theorem agreesAt_of_fieldText_eq (same : a.fieldText field = b.fieldText field) :
    a.AgreesAt b field := by
  have written : a.withFieldOf a field = a.withFieldOf b field := by
    apply Option.some.inj
    rw [← overwrite?_fieldText, ← overwrite?_fieldText, same]
  have own : (a.withFieldOf b field).AgreesAt b field := by
    rw [agreesAt_withFieldOf, if_pos rfl]
    cases field <;> rfl
  rw [← written, agreesAt_withFieldOf, if_pos rfl] at own
  exact own

end OperationalState

/-! ## Reports -/

variable {intent : Intent} {state : OperationalState}

theorem differs_iff {field : Field} :
    differs intent state field = true ↔ ¬state.AgreesAt intent.state field := by
  cases field <;> exact bne_iff_ne.trans (not_congr eq_comm)

theorem fields_detectDrift (intent : Intent) (state : OperationalState) :
    (detectDrift intent state).map FieldDrift.field = Field.all.filter (differs intent state) := by
  rw [detectDrift, List.map_map]
  exact List.map_id _

theorem mem_fields_detectDrift {field : Field} :
    field ∈ (detectDrift intent state).map FieldDrift.field ↔
      ¬state.AgreesAt intent.state field := by
  have known : field ∈ Field.all := by cases field <;> decide
  rw [fields_detectDrift, List.mem_filter, differs_iff]
  exact and_iff_right known

/-- Each entry has the texts of both states in its field. -/
theorem eq_of_mem_detectDrift {drift : FieldDrift} (h : drift ∈ detectDrift intent state) :
    drift.observed = state.fieldText drift.field ∧
      drift.desired = intent.state.fieldText drift.field := by
  obtain ⟨field, -, rfl⟩ := List.mem_map.mp h
  exact ⟨rfl, rfl⟩

/-- A report read in one of its columns: the fields with the texts of one state. -/
theorem column_detectDrift {column : FieldDrift → String} {other : OperationalState}
    (texts : ∀ drift ∈ detectDrift intent state, column drift = other.fieldText drift.field) :
    (detectDrift intent state).map (fun drift => (drift.field, column drift)) =
      ((detectDrift intent state).map FieldDrift.field).map fun field =>
        (field, other.fieldText field) := by
  rw [List.map_map]
  exact List.map_congr_left fun drift member => congrArg (Prod.mk drift.field) (texts drift member)

/--
A device is compliant exactly if its state is the intended one, and exactly then its report is
empty. A report names the fields that differ, each of them once and in the order service, port, TLS,
with two different texts: those of the value on the device and of the intended one. The desired
texts, read back into the state of the device, make it the intended state, and the observed texts,
read back into that one, make it the state of the device again.
-/
theorem drift_report_exact_and_lossless (intent : Intent) (state : OperationalState) :
    (isCompliant intent state = true ↔ state = intent.state) ∧
    (detectDrift intent state = [] ↔ state = intent.state) ∧
    (∀ field, field ∈ (detectDrift intent state).map FieldDrift.field ↔
      ¬state.AgreesAt intent.state field) ∧
    ((detectDrift intent state).map FieldDrift.field).Nodup ∧
    ((detectDrift intent state).map FieldDrift.field).Sublist [.service, .port, .tls] ∧
    (∀ drift ∈ detectDrift intent state, drift.observed ≠ drift.desired ∧
      drift.observed = state.fieldText drift.field ∧
      drift.desired = intent.state.fieldText drift.field) ∧
    state.overwriteAll? ((detectDrift intent state).map fun drift => (drift.field, drift.desired)) =
      some intent.state ∧
    intent.state.overwriteAll?
        ((detectDrift intent state).map fun drift => (drift.field, drift.observed)) =
      some state := by
  have ordered : ((detectDrift intent state).map FieldDrift.field).Sublist Field.all := by
    rw [fields_detectDrift]
    exact List.filter_sublist
  refine ⟨isCompliant_iff, detectDrift_eq_nil_iff, fun _ => mem_fields_detectDrift,
    ordered.nodup (by decide), ordered, fun drift member => ?_, ?_, ?_⟩
  · obtain ⟨observed, desired⟩ := eq_of_mem_detectDrift member
    refine ⟨fun same => ?_, observed, desired⟩
    have agrees := OperationalState.agreesAt_of_fieldText_eq (observed ▸ desired ▸ same)
    exact mem_fields_detectDrift.mp (List.mem_map_of_mem member) agrees
  · rw [column_detectDrift fun drift member => (eq_of_mem_detectDrift member).2,
      OperationalState.overwriteAll?_texts]
    exact congrArg some (OperationalState.withFieldsOf_eq fun _ => mem_fields_detectDrift.mpr)
  · rw [column_detectDrift fun drift member => (eq_of_mem_detectDrift member).1,
      OperationalState.overwriteAll?_texts]
    exact congrArg some (OperationalState.withFieldsOf_eq fun _ differs =>
      mem_fields_detectDrift.mpr fun agrees => differs agrees.symm)

end ClosedLoop
