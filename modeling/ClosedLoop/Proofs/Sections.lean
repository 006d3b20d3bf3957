import ClosedLoop.Proofs.Trees
import Mathlib.Data.List.Nodup

/-!
# Sections by their keys

A section is read entry by entry, with what has been read so far at hand. Its outcome is that of
looking up each of its keys on its own: the keys of a section are slots that do not touch each
other.

* `Keys` — the known keys of a section as independent slots
* `Keys.readEntries_eq_ok_iff` — entries are read where each slot is filled by what is under its key
* `Keys.readSection_eq_ok_iff` — the same for a whole section
* `Yaml.Tree.config?` — the configuration that a tree holds, key by key, with every default
* `readConfig_eq_ok_iff`, `Config.accept_eq_ok_iff` — it is what is read and, if it breaks no rule,
  taken
-/

namespace ClosedLoop

open Yaml (Document Node Scalar Tree Composes ComposesEntries)

/-! ## Slots -/

/-- A key of a section with fields `σ`: where its value goes, and what a tree holds for it. -/
structure Slot (document : Document) (σ : Type) where
  α : Type
  name : String
  get : σ → Option α
  put : σ → α → σ
  read : Path → Node → Reading α
  holds : Tree → Option α
  reads : ReadsAs document read holds
  get_put : ∀ fields a, get (put fields a) = some a

namespace Slot

variable {document : Document} {σ : Type}

def entry (slot : Slot document σ) : Entry σ :=
  .make slot.name slot.get slot.put slot.read

/-- What a slot is filled with by entries, unless it is filled twice. -/
def fill? (slot : Slot document σ) (entries : List (Tree × Tree)) (fields : σ) :
    Option (Option slot.α) :=
  match slot.get fields with
  | none => Tree.field? slot.holds slot.name entries
  | some a => if Tree.values slot.name entries = [] then some (some a) else none

end Slot

/-- The known keys of a section with fields `σ`, as slots that do not touch each other. -/
structure Keys (document : Document) (σ : Type) where
  slots : List (Slot document σ)
  distinct : (slots.map (·.name)).Nodup
  get_put_other : ∀ slot ∈ slots, ∀ other ∈ slots, other.name ≠ slot.name →
    ∀ fields a, other.get (slot.put fields a) = other.get fields
  ext : ∀ fields fields', (∀ slot ∈ slots, slot.get fields = slot.get fields') → fields = fields'

namespace Yaml.Tree

variable {name : String} {key value : Tree} {entries : List (Tree × Tree)}

theorem values_cons_of_key (same : key.key? = some name.toList) :
    values name ((key, value) :: entries) = value :: values name entries := by
  simp [values, same]

theorem values_cons_of_other (other : key.key? ≠ some name.toList) :
    values name ((key, value) :: entries) = values name entries := by
  simp [values, other]

theorem section?_eq_some_iff {tree : Tree} :
    tree.section? = some entries ↔ tree.entries? = some entries ∧ AreKeyed entries := by
  rw [section?, Option.filter_eq_some_iff, List.all_eq_true]
  exact Iff.rfl

section

variable {α : Type} {holds : Tree → Option α} {standard a : α}

theorem required?_eq_some_iff :
    required? holds name entries = some a ↔ field? holds name entries = some (some a) :=
  Option.join_eq_some_iff

theorem optional?_eq_some_iff : optional? holds name entries standard = some a ↔
    ∃ written, field? holds name entries = some written ∧ written.getD standard = a :=
  Option.map_eq_some_iff

end

end Yaml.Tree

namespace Slot

variable {document : Document} {σ : Type} {slot : Slot document σ} {key value : Tree}
  {entries : List (Tree × Tree)} {fields : σ}

theorem fill?_nil : slot.fill? [] fields = some (slot.get fields) := by
  unfold fill?
  split
  · next empty => rw [empty]; rfl
  · next a filled => rw [filled]; rfl

theorem fill?_cons_of_other (other : key.key? ≠ some slot.name.toList) :
    slot.fill? ((key, value) :: entries) fields = slot.fill? entries fields := by
  simp only [fill?, Tree.field?, Tree.values_cons_of_other other]

theorem fill?_cons_of_filled {a : slot.α} (same : key.key? = some slot.name.toList)
    (filled : slot.get fields = some a) : slot.fill? ((key, value) :: entries) fields = none := by
  simp [fill?, filled, Tree.values_cons_of_key same]

theorem fill?_cons_of_unheld (same : key.key? = some slot.name.toList)
    (empty : slot.get fields = none) (unheld : slot.holds value = none) :
    slot.fill? ((key, value) :: entries) fields = none := by
  simp only [fill?, empty, Tree.field?, Tree.values_cons_of_key same]
  cases Tree.values slot.name entries with
  | nil => simp [unheld]
  | cons => rfl

theorem fill?_cons_of_held {a : slot.α} (same : key.key? = some slot.name.toList)
    (empty : slot.get fields = none) (held : slot.holds value = some a) :
    slot.fill? ((key, value) :: entries) fields = slot.fill? entries (slot.put fields a) := by
  simp only [fill?, empty, Tree.field?, Tree.values_cons_of_key same, slot.get_put]
  cases Tree.values slot.name entries with
  | nil => simp [held]
  | cons => simp

end Slot

/-! ## Entries -/

namespace Keys

variable {document : Document} {σ : Type} (keys : Keys document σ)

/-- The known keys as they are read. -/
def known : List (Entry σ) :=
  keys.slots.map Slot.entry

/-- Every slot is filled by entries. -/
def Filled (entries : List (Tree × Tree)) (fields fields' : σ) : Prop :=
  ∀ slot ∈ keys.slots, slot.fill? entries fields = some (slot.get fields')

variable {keys}

theorem eq_of_name_eq {slot other : Slot document σ} (member : slot ∈ keys.slots)
    (member' : other ∈ keys.slots) (same : slot.name = other.name) : slot = other :=
  List.inj_on_of_nodup_map keys.distinct member member' same

theorem filled_cons_of_unknown {key value : Tree} {entries : List (Tree × Tree)}
    {fields fields' : σ} (unknown : ∀ slot ∈ keys.slots, key.key? ≠ some slot.name.toList) :
    keys.Filled ((key, value) :: entries) fields fields' ↔ keys.Filled entries fields fields' :=
  forall₂_congr fun slot member => by rw [Slot.fill?_cons_of_other (unknown slot member)]

theorem filled_cons_of_held {slot : Slot document σ} (member : slot ∈ keys.slots) {a : slot.α}
    {key value : Tree} {entries : List (Tree × Tree)} {fields fields' : σ}
    (same : key.key? = some slot.name.toList) (empty : slot.get fields = none)
    (held : slot.holds value = some a) :
    keys.Filled ((key, value) :: entries) fields fields' ↔
      keys.Filled entries (slot.put fields a) fields' := by
  refine forall₂_congr fun other member' => ?_
  by_cases names : other.name = slot.name
  · cases keys.eq_of_name_eq member' member names
    rw [Slot.fill?_cons_of_held same empty held]
  · have differs : key.key? ≠ some other.name.toList := by
      rw [same]
      exact fun equal => names (String.toList_inj.mp (Option.some.inj equal)).symm
    rw [Slot.fill?_cons_of_other differs]
    simp only [Slot.fill?, keys.get_put_other slot member other member' names]

section

variable {slot : Slot document σ} {key value : Tree} {entries : List (Tree × Tree)}
  {fields fields' : σ}

/-- What stands under a key for the second time fills no slot. -/
theorem not_filled_cons_of_filled (member : slot ∈ keys.slots) {a : slot.α}
    (same : key.key? = some slot.name.toList) (filled : slot.get fields = some a) :
    ¬ keys.Filled ((key, value) :: entries) fields fields' := by
  intro all
  have twice := all slot member
  rw [Slot.fill?_cons_of_filled same filled] at twice
  cases twice

/-- What is of another kind fills no slot. -/
theorem not_filled_cons_of_unheld (member : slot ∈ keys.slots)
    (same : key.key? = some slot.name.toList) (empty : slot.get fields = none)
    (unheld : slot.holds value = none) :
    ¬ keys.Filled ((key, value) :: entries) fields fields' := by
  intro all
  have read := all slot member
  rw [Slot.fill?_cons_of_unheld same empty unheld] at read
  cases read

end

theorem ne_of_find?_eq_none {chars : List Char}
    (found : keys.known.find? (·.name.toList == chars) = none) :
    ∀ slot ∈ keys.slots, chars ≠ slot.name.toList := by
  intro slot member same
  exact List.find?_eq_none.mp found slot.entry (List.mem_map_of_mem member)
    (beq_iff_eq.mpr same.symm)

theorem exists_slot_of_find? {chars : List Char} {entry : Entry σ}
    (found : keys.known.find? (·.name.toList == chars) = some entry) :
    ∃ slot ∈ keys.slots, slot.entry = entry ∧ chars = slot.name.toList := by
  obtain ⟨slot, member, rfl⟩ := List.mem_map.mp (List.mem_of_find?_eq_some found)
  have hit := List.find?_some found
  exact ⟨slot, member, rfl, (beq_iff_eq.mp hit).symm⟩

/-- Entries are read where their keys are scalars and each slot is filled by what is under it. -/
theorem readEntries_eq_ok_iff {nodes : List (Node × Node)} {entries : List (Tree × Tree)}
    (composed : ComposesEntries document nodes entries) (site : Site) (fields fields' : σ) :
    readEntries document keys.known site nodes fields = .ok fields' ↔
      Tree.AreKeyed entries ∧ keys.Filled entries fields fields' := by
  induction nodes generalizing entries fields with
  | nil =>
    cases composed
    simp only [readEntries, Except.ok.injEq, Filled, Slot.fill?_nil, Option.some.injEq]
    constructor
    · rintro rfl
      exact ⟨List.forall_mem_nil _, fun _ _ => rfl⟩
    · rintro ⟨-, same⟩
      exact keys.ext _ _ same
  | cons node nodes ih =>
    obtain _ | @⟨key, value, name, tree, _, entries, named, holds, others⟩ := composed
    have keyed : Tree.AreKeyed ((name, tree) :: entries) ↔
        name.key?.isSome = true ∧ Tree.AreKeyed entries := List.forall_mem_cons
    rw [readEntries, keyed]
    cases text : name.key? with
    | none =>
      obtain ⟨failure, fails⟩ := readsAs_key.exists_error site.path named text
      simp [fails]
    | some chars =>
      have read : readKey document site.path key = .ok chars :=
        (readsAs_key _ _ _ named _).mpr text
      simp only [read, Option.isSome_some, true_and]
      cases found : keys.known.find? (·.name.toList == chars) with
      | none =>
        have unknown : ∀ slot ∈ keys.slots, name.key? ≠ some slot.name.toList :=
          fun slot member same =>
            ne_of_find?_eq_none found slot member (Option.some.inj (text.symm.trans same))
        simp only [filled_cons_of_unknown unknown]
        exact ih others fields
      | some entry =>
        obtain ⟨slot, member, rfl, rfl⟩ := exists_slot_of_find? found
        have isRead : slot.entry.isRead fields = (slot.get fields).isSome := rfl
        have reads (path : Path) : slot.entry.read path value fields =
            (slot.read path value).map (slot.put fields) := rfl
        simp only [isRead, reads]
        -- A slot is filled once: it must be empty so far, and the value of its kind.
        cases empty : slot.get fields with
        | some a => simp [not_filled_cons_of_filled member text empty, Site.fail]
        | none =>
          cases held : slot.holds tree with
          | none =>
            obtain ⟨failure, fails⟩ := slot.reads.exists_error (site.path.below key) holds held
            simp [fails, not_filled_cons_of_unheld member text empty held, Except.map]
          | some a =>
            have ok : slot.read (site.path.below key) value = .ok a :=
              (slot.reads _ _ _ holds _).mpr held
            simp only [ok, Except.map, filled_cons_of_held member text empty held]
            exact ih others (slot.put fields a)

/-! ## Whole sections -/

/--
A section is read where its keys are scalars, each slot is filled by what is under its key, and the
fields amount to something.
-/
theorem readSection_eq_ok_iff (keys : Keys document σ) {α : Type} {expected : Expected}
    {blank : σ} (empty : ∀ slot ∈ keys.slots, slot.get blank = none)
    {finish : Site → σ → Reading α} (whole : σ → Option α)
    (finishes : ∀ site fields a, finish site fields = .ok a ↔ whole fields = some a)
    {path : Path} {node : Node} {tree : Tree} (composed : Composes document node tree) (a : α) :
    readSection document path expected keys.known blank finish node = .ok a ↔
      ∃ entries, tree.section? = some entries ∧ ∃ fields,
        (∀ slot ∈ keys.slots, Tree.field? slot.holds slot.name entries = some (slot.get fields)) ∧
          whole fields = some a := by
  have filled (entries : List (Tree × Tree)) (fields : σ) : keys.Filled entries blank fields ↔
      ∀ slot ∈ keys.slots, Tree.field? slot.holds slot.name entries = some (slot.get fields) :=
    forall₂_congr fun slot member => by simp only [Slot.fill?, empty slot member]
  have blanks (fields : σ) : keys.Filled [] blank fields ↔ blank = fields :=
    ⟨fun h => keys.ext _ _ fun slot member => by simpa [Slot.fill?_nil] using h slot member,
      fun h slot _ => by rw [Slot.fill?_nil, h]⟩
  simp only [← filled, Tree.section?_eq_some_iff]
  -- Where nothing is written the section is blank, and its finish is all that counts.
  have unwritten : (∃ entries, (some [] = some entries ∧ Tree.AreKeyed entries) ∧
      ∃ fields, keys.Filled entries blank fields ∧ whole fields = some a) ↔
        whole blank = some a := by
    simp [blanks, Tree.AreKeyed]
  cases composed with
  | @mapping _ start nodes entries is parts =>
    have reads (fields : σ) : readEntries document keys.known ⟨path, start⟩ nodes blank =
        .ok fields ↔ Tree.AreKeyed entries ∧ keys.Filled entries blank fields :=
      readEntries_eq_ok_iff parts _ _ _
    have written : (∃ entries', (some entries = some entries' ∧ Tree.AreKeyed entries') ∧
        ∃ fields, keys.Filled entries' blank fields ∧ whole fields = some a) ↔
          ∃ fields, readEntries document keys.known ⟨path, start⟩ nodes blank = .ok fields ∧
            whole fields = some a := by
      simp [reads, and_assoc]
    simp only [readSection, is, Node.start, Tree.entries?, written]
    cases readEntries document keys.known ⟨path, start⟩ nodes blank with
    | error failure => simp
    | ok fields => simpa using finishes _ _ _
  | nothing is => simpa only [readSection, is, Tree.entries?, unwritten] using finishes _ _ _
  | @scalar _ start scalar is =>
    simp only [readSection, is, Tree.entries?]
    split
    · simpa only [unwritten] using finishes _ _ _
    · simp [Site.failAtScalar_ne_ok]
  | sequence is => simp [readSection, is, Tree.entries?, Site.fail]

/-- A section is read as what a tree holds that is put together from its slots. -/
theorem readsAs (keys : Keys document σ) {α : Type} {expected : Expected} {blank : σ}
    (empty : ∀ slot ∈ keys.slots, slot.get blank = none) {finish : Site → σ → Reading α}
    (whole : σ → Option α)
    (finishes : ∀ site fields a, finish site fields = .ok a ↔ whole fields = some a)
    {holds : Tree → Option α}
    (same : ∀ tree a, (∃ entries, tree.section? = some entries ∧ ∃ fields,
      (∀ slot ∈ keys.slots, Tree.field? slot.holds slot.name entries = some (slot.get fields)) ∧
        whole fields = some a) ↔ holds tree = some a) :
    ReadsAs document
      (fun path node => readSection document path expected keys.known blank finish node) holds :=
  fun _ _ tree composed a =>
    (keys.readSection_eq_ok_iff empty whole finishes composed a).trans (same tree a)

end Keys

/-! ## The sections of a configuration -/

namespace Yaml.Tree

def device? (tree : Tree) : Option DeviceConfig := do
  let entries ← tree.section?
  let hostname ← required? text? "hostname" entries
  let platform ← required? text? "platform" entries
  return { hostname, platform }

def service? (tree : Tree) : Option ServiceConfig := do
  let entries ← tree.section?
  let service ← required? text? "service" entries
  let port ← required? word32? "port" entries
  let tls ← required? flag? "tls" entries
  return { service, port, tls }

def backoff? (tree : Tree) : Option BackoffConfig := do
  let entries ← tree.section?
  let enabled ← optional? flag? "enabled" entries true
  let maxSecs ← optional? word64? "max_secs" entries 60
  return { enabled, maxSecs }

def controller? (tree : Tree) : Option ControllerConfig := do
  let entries ← tree.section?
  let intervalSecs ← optional? word64? "interval_secs" entries 5
  let applyTimeoutSecs ← optional? word64? "apply_timeout_secs" entries 10
  let backoff ← optional? backoff? "backoff" entries ⟨true, 60⟩
  return { intervalSecs, applyTimeoutSecs, backoff }

def simulation? (tree : Tree) : Option SimulationConfig := do
  let entries ← tree.section?
  let initialState ← optional? service? "initial_state" entries ⟨"grpc", 57777, false⟩
  let rejectFirstApplies ← optional? word32? "reject_first_applies" entries 0
  return { initialState, rejectFirstApplies }

/-- The configuration that a tree holds, key by key. -/
def config? (tree : Tree) : Option Config := do
  let entries ← tree.section?
  let device ← required? device? "device" entries
  let intent ← required? service? "intent" entries
  let controller ← optional? controller? "controller" entries ⟨5, 10, ⟨true, 60⟩⟩
  let simulation ← optional? simulation? "simulation" entries ⟨⟨"grpc", 57777, false⟩, 0⟩
  return { device, intent, controller, simulation }

end Yaml.Tree

section

variable {document : Document}

def deviceKeys : Keys document DeviceFields where
  slots := [
    ⟨_, "hostname", (·.hostname), fun s v => { s with hostname := some v }, _, _, readsAs_text,
      fun _ _ => rfl⟩,
    ⟨_, "platform", (·.platform), fun s v => { s with platform := some v }, _, _, readsAs_text,
      fun _ _ => rfl⟩]
  distinct := by simp
  get_put_other := by simp
  ext := by
    rintro ⟨hostname, platform⟩ ⟨hostname', platform'⟩ same
    simpa using same

theorem readsAs_device : ReadsAs document (readDevice document) Tree.device? := by
  refine deviceKeys.readsAs (by simp [deviceKeys])
    (fun fields => do return ⟨← fields.hostname, ← fields.platform⟩) ?_ fun tree config => ?_
  · rintro site ⟨_ | hostname, _ | platform⟩ config <;>
      simp [Site.require, Site.fail, bind, Except.bind, pure, Except.pure]
  · simp only [deviceKeys, Tree.device?, Tree.required?_eq_some_iff, List.forall_mem_cons,
      List.not_mem_nil, false_implies, implies_true, and_true, Option.bind_eq_bind,
      Option.bind_eq_some_iff, Option.pure_def, Option.some.injEq]
    constructor
    · rintro ⟨entries, written, ⟨_, _⟩, ⟨h, p⟩, hostname, rfl, platform, rfl, rfl⟩
      exact ⟨entries, written, hostname, h, platform, p, rfl⟩
    · rintro ⟨entries, written, hostname, h, platform, p, rfl⟩
      exact ⟨entries, written, ⟨hostname, platform⟩, ⟨h, p⟩, hostname, rfl, platform, rfl, rfl⟩

def serviceKeys : Keys document ServiceFields where
  slots := [
    ⟨_, "service", (·.service), fun s v => { s with service := some v }, _, _, readsAs_text,
      fun _ _ => rfl⟩,
    ⟨_, "port", (·.port), fun s v => { s with port := some v }, _, _, readsAs_word32,
      fun _ _ => rfl⟩,
    ⟨_, "tls", (·.tls), fun s v => { s with tls := some v }, _, _, readsAs_flag,
      fun _ _ => rfl⟩]
  distinct := by simp
  get_put_other := by simp
  ext := by
    rintro ⟨service, port, tls⟩ ⟨service', port', tls'⟩ same
    simpa using same

theorem readsAs_service : ReadsAs document (readService document) Tree.service? := by
  refine serviceKeys.readsAs (by simp [serviceKeys])
    (fun fields => do return ⟨← fields.service, ← fields.port, ← fields.tls⟩) ?_
    fun tree config => ?_
  · rintro site ⟨_ | service, _ | port, _ | tls⟩ config <;>
      simp [Site.require, Site.fail, bind, Except.bind, pure, Except.pure]
  · simp only [serviceKeys, Tree.service?, Tree.required?_eq_some_iff, List.forall_mem_cons,
      List.not_mem_nil, false_implies, implies_true, and_true, Option.bind_eq_bind,
      Option.bind_eq_some_iff, Option.pure_def, Option.some.injEq]
    constructor
    · rintro ⟨entries, written, ⟨_, _, _⟩, ⟨s, p, t⟩, service, rfl, port, rfl, tls, rfl, rfl⟩
      exact ⟨entries, written, service, s, port, p, tls, t, rfl⟩
    · rintro ⟨entries, written, service, s, port, p, tls, t, rfl⟩
      exact ⟨entries, written, ⟨service, port, tls⟩, ⟨s, p, t⟩, service, rfl, port, rfl, tls, rfl,
        rfl⟩

def backoffKeys : Keys document BackoffFields where
  slots := [
    ⟨_, "enabled", (·.enabled), fun s v => { s with enabled := some v }, _, _, readsAs_flag,
      fun _ _ => rfl⟩,
    ⟨_, "max_secs", (·.maxSecs), fun s v => { s with maxSecs := some v }, _, _, readsAs_word64,
      fun _ _ => rfl⟩]
  distinct := by simp
  get_put_other := by simp
  ext := by
    rintro ⟨enabled, maxSecs⟩ ⟨enabled', maxSecs'⟩ same
    simpa using same

theorem readsAs_backoff : ReadsAs document (readBackoff document) Tree.backoff? := by
  refine backoffKeys.readsAs (by simp [backoffKeys])
    (fun fields => some ⟨fields.enabled.getD true, fields.maxSecs.getD 60⟩) (by simp)
    fun tree config => ?_
  simp only [backoffKeys, Tree.backoff?, Tree.optional?_eq_some_iff, List.forall_mem_cons,
    List.not_mem_nil, false_implies, implies_true, and_true, Option.bind_eq_bind,
    Option.bind_eq_some_iff, Option.pure_def, Option.some.injEq]
  constructor
  · rintro ⟨entries, written, ⟨enabled, maxSecs⟩, ⟨e, m⟩, rfl⟩
    exact ⟨entries, written, _, ⟨enabled, e, rfl⟩, _, ⟨maxSecs, m, rfl⟩, rfl⟩
  · rintro ⟨entries, written, _, ⟨enabled, e, rfl⟩, _, ⟨maxSecs, m, rfl⟩, rfl⟩
    exact ⟨entries, written, ⟨enabled, maxSecs⟩, ⟨e, m⟩, rfl⟩

def controllerKeys : Keys document ControllerFields where
  slots := [
    ⟨_, "interval_secs", (·.intervalSecs), fun s v => { s with intervalSecs := some v }, _, _,
      readsAs_word64, fun _ _ => rfl⟩,
    ⟨_, "apply_timeout_secs", (·.applyTimeoutSecs),
      fun s v => { s with applyTimeoutSecs := some v }, _, _, readsAs_word64, fun _ _ => rfl⟩,
    ⟨_, "backoff", (·.backoff), fun s v => { s with backoff := some v }, _, _, readsAs_backoff,
      fun _ _ => rfl⟩]
  distinct := by simp
  get_put_other := by simp
  ext := by
    rintro ⟨interval, timeout, backoff⟩ ⟨interval', timeout', backoff'⟩ same
    simpa using same

theorem readsAs_controller : ReadsAs document (readController document) Tree.controller? := by
  refine controllerKeys.readsAs (by simp [controllerKeys])
    (fun fields => some ⟨fields.intervalSecs.getD 5, fields.applyTimeoutSecs.getD 10,
      fields.backoff.getD ⟨true, 60⟩⟩) (by simp) fun tree config => ?_
  simp only [controllerKeys, Tree.controller?, Tree.optional?_eq_some_iff, List.forall_mem_cons,
    List.not_mem_nil, false_implies, implies_true, and_true, Option.bind_eq_bind,
    Option.bind_eq_some_iff, Option.pure_def, Option.some.injEq]
  constructor
  · rintro ⟨entries, written, ⟨interval, timeout, backoff⟩, ⟨i, t, b⟩, rfl⟩
    exact ⟨entries, written, _, ⟨interval, i, rfl⟩, _, ⟨timeout, t, rfl⟩, _, ⟨backoff, b, rfl⟩,
      rfl⟩
  · rintro ⟨entries, written, _, ⟨interval, i, rfl⟩, _, ⟨timeout, t, rfl⟩, _, ⟨backoff, b, rfl⟩,
      rfl⟩
    exact ⟨entries, written, ⟨interval, timeout, backoff⟩, ⟨i, t, b⟩, rfl⟩

def simulationKeys : Keys document SimulationFields where
  slots := [
    ⟨_, "initial_state", (·.initialState), fun s v => { s with initialState := some v }, _, _,
      readsAs_service, fun _ _ => rfl⟩,
    ⟨_, "reject_first_applies", (·.rejectFirstApplies),
      fun s v => { s with rejectFirstApplies := some v }, _, _, readsAs_word32, fun _ _ => rfl⟩]
  distinct := by simp
  get_put_other := by simp
  ext := by
    rintro ⟨initial, rejects⟩ ⟨initial', rejects'⟩ same
    simpa using same

theorem readsAs_simulation : ReadsAs document (readSimulation document) Tree.simulation? := by
  refine simulationKeys.readsAs (by simp [simulationKeys])
    (fun fields => some ⟨fields.initialState.getD ⟨"grpc", 57777, false⟩,
      fields.rejectFirstApplies.getD 0⟩) (by simp [ServiceConfig.initial]) fun tree config => ?_
  simp only [simulationKeys, Tree.simulation?, Tree.optional?_eq_some_iff, List.forall_mem_cons,
    List.not_mem_nil, false_implies, implies_true, and_true, Option.bind_eq_bind,
    Option.bind_eq_some_iff, Option.pure_def, Option.some.injEq]
  constructor
  · rintro ⟨entries, written, ⟨initial, rejects⟩, ⟨i, r⟩, rfl⟩
    exact ⟨entries, written, _, ⟨initial, i, rfl⟩, _, ⟨rejects, r, rfl⟩, rfl⟩
  · rintro ⟨entries, written, _, ⟨initial, i, rfl⟩, _, ⟨rejects, r, rfl⟩, rfl⟩
    exact ⟨entries, written, ⟨initial, rejects⟩, ⟨i, r⟩, rfl⟩

def configKeys : Keys document ConfigFields where
  slots := [
    ⟨_, "device", (·.device), fun s v => { s with device := some v }, _, _, readsAs_device,
      fun _ _ => rfl⟩,
    ⟨_, "intent", (·.intent), fun s v => { s with intent := some v }, _, _, readsAs_service,
      fun _ _ => rfl⟩,
    ⟨_, "controller", (·.controller), fun s v => { s with controller := some v }, _, _,
      readsAs_controller, fun _ _ => rfl⟩,
    ⟨_, "simulation", (·.simulation), fun s v => { s with simulation := some v }, _, _,
      readsAs_simulation, fun _ _ => rfl⟩]
  distinct := by simp
  get_put_other := by simp
  ext := by
    rintro ⟨device, intent, controller, simulation⟩
      ⟨device', intent', controller', simulation'⟩ same
    simpa using same

/-- What is read of a configuration is what its tree holds. -/
theorem readConfig_eq_ok_iff {node : Node} {tree : Tree} (composed : Composes document node tree)
    (config : Config) : readConfig document node = .ok config ↔ tree.config? = some config := by
  refine (configKeys.readSection_eq_ok_iff (by simp [configKeys])
    (fun fields => do
      return ⟨← fields.device, ← fields.intent, fields.controller.getD ⟨5, 10, ⟨true, 60⟩⟩,
        fields.simulation.getD ⟨⟨"grpc", 57777, false⟩, 0⟩⟩) ?_ composed config).trans ?_
  · rintro site ⟨_ | device, _ | intent, controller, simulation⟩ config <;>
      simp [Site.require, Site.fail, bind, Except.bind, pure, Except.pure, ServiceConfig.initial]
  · simp only [configKeys, Tree.config?, Tree.required?_eq_some_iff, Tree.optional?_eq_some_iff,
      List.forall_mem_cons, List.not_mem_nil, false_implies, implies_true, and_true,
      Option.bind_eq_bind, Option.bind_eq_some_iff, Option.pure_def, Option.some.injEq]
    constructor
    · rintro ⟨entries, written, ⟨_, _, controller, simulation⟩, ⟨d, i, c, s⟩, device, rfl, intent,
        rfl, rfl⟩
      exact ⟨entries, written, device, d, intent, i, _, ⟨controller, c, rfl⟩, _,
        ⟨simulation, s, rfl⟩, rfl⟩
    · rintro ⟨entries, written, device, d, intent, i, _, ⟨controller, c, rfl⟩, _,
        ⟨simulation, s, rfl⟩, rfl⟩
      exact ⟨entries, written, ⟨device, intent, controller, simulation⟩, ⟨d, i, c, s⟩, device, rfl,
        intent, rfl, rfl⟩

end

/-! ## Configurations that are taken -/

namespace Config

/-- The configuration that a document holds, if it breaks no rule. -/
def accept (document : Document) : Except ConfigError Config :=
  match ofDocument document with
  | .ok config =>
    match config.fault? with
    | none => .ok config
    | some fault => .error (.invalid fault)
  | .error failure => .error (.parse failure)

theorem ofText_eq_accept (text : String) : ofText text = accept (.ofText text) :=
  rfl

variable {document : Document} {tree : Tree}

theorem ofDocument_eq_ok_iff (composed : document.IsComposed tree) {config : Config} :
    ofDocument document = .ok config ↔ tree.config? = some config := by
  rw [← readConfig_eq_ok_iff composed.root, ofDocument, composed.complete]
  cases readConfig document document.root <;> simp

/-- What a tree holds is taken unless it breaks a rule. -/
theorem accept_of_config? (composed : document.IsComposed tree) {config : Config}
    (held : tree.config? = some config) : accept document =
      match config.fault? with
      | none => .ok config
      | some fault => .error (.invalid fault) := by
  rw [accept, (ofDocument_eq_ok_iff composed).mpr held]

/-- A document is no configuration where its tree holds none. -/
theorem accept_of_config?_eq_none (composed : document.IsComposed tree)
    (unheld : tree.config? = none) : ∃ failure, accept document = .error (.parse failure) := by
  cases read : ofDocument document with
  | error failure => exact ⟨failure, by rw [accept, read]⟩
  | ok config => exact nomatch unheld.symm.trans ((ofDocument_eq_ok_iff composed).mp read)

/-- A document is taken for the configuration that its tree holds, if that breaks no rule. -/
theorem accept_eq_ok_iff (composed : document.IsComposed tree) {config : Config} :
    accept document = .ok config ↔ tree.config? = some config ∧ config.Valid := by
  cases held : tree.config? with
  | none =>
    obtain ⟨failure, fails⟩ := accept_of_config?_eq_none composed held
    simp [fails]
  | some read =>
    rw [accept_of_config? composed held, Option.some.injEq]
    cases kept : read.fault? with
    | none =>
      have valid : read.Valid := kept
      constructor
      · rintro ⟨⟩
        exact ⟨rfl, valid⟩
      · rintro ⟨rfl, -⟩
        rfl
    | some fault =>
      have invalid : ¬ read.Valid := fun valid => nomatch kept.symm.trans valid
      constructor
      · exact nofun
      · rintro ⟨rfl, valid⟩
        exact absurd valid invalid

end Config

end ClosedLoop
