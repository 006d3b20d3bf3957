import ClosedLoop.Proofs.Sections
import Mathlib.Data.Option.Basic
import Mathlib.Logic.Relation

/-!
# Configurations in other words

The same configuration can be written in many ways: keys in any order, defaults written out or not,
and anything under keys that no section knows. Each step from one to the other keeps what every
section holds, and so does any chain of steps, back and forth.

* `Section`, `Section.Field` — the sections of a configuration with their fields
* `Section.defaults` — the keys that may be left out, each with its default written out
* `Section.content?_mapping_congr` — a section depends on the values of its fields alone
* `Restates` — one step, in a section or in one of those inside of it
* `Restates.content?_eq` — what a step keeps
* `Config.accept_of_restated` — documents in other words are taken for the same configuration
-/

namespace ClosedLoop

open Yaml (Document Scalar Tree)

/-! ## Fields -/

/-- The sections of a configuration, the first one of them being all of it. -/
inductive Section where
  | config
  | device
  | service
  | controller
  | backoff
  | simulation

/-- What stands under a key. -/
inductive Shape where
  | text
  | flag
  | word32
  | word64
  | nested (part : Section)

def Section.Content : Section → Type
  | config => Config
  | device => DeviceConfig
  | service => ServiceConfig
  | controller => ControllerConfig
  | backoff => BackoffConfig
  | simulation => SimulationConfig

/-- What a tree holds as a section. -/
def Section.content? : (part : Section) → Tree → Option part.Content
  | config => Tree.config?
  | device => Tree.device?
  | service => Tree.service?
  | controller => Tree.controller?
  | backoff => Tree.backoff?
  | simulation => Tree.simulation?

def Shape.Content : Shape → Type
  | text => String
  | flag => Bool
  | word32 => UInt32
  | word64 => UInt64
  | nested part => part.Content

def Shape.content? : (shape : Shape) → Tree → Option shape.Content
  | text => Tree.text?
  | flag => Tree.flag?
  | word32 => Tree.word32?
  | word64 => Tree.word64?
  | nested part => part.content?

/-- A key of a section, and what its value is where it is left out, unless it has to be there. -/
structure Section.Field where
  name : String
  shape : Shape
  standard? : Option shape.Content := none

def Section.fields : Section → List Section.Field
  | config => [⟨"device", .nested .device, none⟩, ⟨"intent", .nested .service, none⟩,
      ⟨"controller", .nested .controller, some (⟨5, 10, ⟨true, 60⟩⟩ : ControllerConfig)⟩,
      ⟨"simulation", .nested .simulation,
        some (⟨⟨"grpc", 57777, false⟩, 0⟩ : SimulationConfig)⟩]
  | device => [⟨"hostname", .text, none⟩, ⟨"platform", .text, none⟩]
  | service => [⟨"service", .text, none⟩, ⟨"port", .word32, none⟩, ⟨"tls", .flag, none⟩]
  | controller => [⟨"interval_secs", .word64, some (5 : UInt64)⟩,
      ⟨"apply_timeout_secs", .word64, some (10 : UInt64)⟩,
      ⟨"backoff", .nested .backoff, some (⟨true, 60⟩ : BackoffConfig)⟩]
  | backoff => [⟨"enabled", .flag, some true⟩, ⟨"max_secs", .word64, some (60 : UInt64)⟩]
  | simulation => [
      ⟨"initial_state", .nested .service, some (⟨"grpc", 57777, false⟩ : ServiceConfig)⟩,
      ⟨"reject_first_applies", .word32, some (0 : UInt32)⟩]

theorem Section.distinct (part : Section) : (part.fields.map (·.name)).Nodup := by
  cases part <;> simp [fields]

namespace Yaml.Tree

variable {name : String} {entries entries' : List (Tree × Tree)}

theorem AreKeyed.perm (perm : entries.Perm entries') : AreKeyed entries ↔ AreKeyed entries' :=
  forall_congr' fun _ => imp_congr_left perm.mem_iff

theorem areKeyed_cons_iff {key value value' : Tree} :
    AreKeyed ((key, value) :: entries) ↔ AreKeyed ((key, value') :: entries) := by
  simp [AreKeyed]

theorem areKeyed_cons {key value : Tree} {name : List Char} (named : key.key? = some name) :
    AreKeyed entries ↔ AreKeyed ((key, value) :: entries) := by
  simp [AreKeyed, named]

/-- The order of the entries is nothing to what is under a key. -/
theorem field?_perm {α : Type} {holds : Tree → Option α} (perm : entries.Perm entries') :
    field? holds name entries = field? holds name entries' := by
  have same : (values name entries).Perm (values name entries') := (perm.filter _).map _
  unfold field?
  generalize values name entries = before, values name entries' = behind at same
  match before, same with
  | [], same => rw [same.nil_eq]
  | [value], same => rw [List.singleton_perm.mp same]
  | _ :: _ :: _, same =>
    match behind, same.length_eq with
    | _ :: _ :: _, _ => rfl

theorem section?_mapping_of_not (unkeyed : ¬ AreKeyed entries) :
    (mapping entries).section? = none := by
  cases written : (mapping entries).section? with
  | none => rfl
  | some entries' =>
    obtain ⟨same, keyed⟩ := section?_eq_some_iff.mp written
    cases same
    exact absurd keyed unkeyed

end Yaml.Tree

namespace Section.Field

variable {field : Section.Field} {entries entries' : List (Tree × Tree)} {key value value' : Tree}

/-- The value of a field in a section. -/
def value? (field : Section.Field) (entries : List (Tree × Tree)) : Option field.shape.Content :=
  match field.standard? with
  | none => Tree.required? field.shape.content? field.name entries
  | some standard => Tree.optional? field.shape.content? field.name entries standard

/-- A tree says of a field what goes without saying. -/
def IsStandard (field : Section.Field) (tree : Tree) : Prop :=
  ∃ standard, field.standard? = some standard ∧ field.shape.content? tree = some standard

theorem value?_congr (same : Tree.field? field.shape.content? field.name entries =
    Tree.field? field.shape.content? field.name entries') :
    field.value? entries = field.value? entries' := by
  unfold value? Tree.required? Tree.optional?
  rw [same]

theorem value?_perm (perm : entries.Perm entries') :
    field.value? entries = field.value? entries' :=
  value?_congr (Tree.field?_perm perm)

theorem value?_cons_of_other (other : key.key? ≠ some field.name.toList) :
    field.value? ((key, value) :: entries) = field.value? entries :=
  value?_congr (by rw [Tree.field?, Tree.field?, Tree.values_cons_of_other other])

theorem value?_cons_of_named {other : Section.Field}
    (named : key.key? = some other.name.toList) (names : field.name ≠ other.name) :
    field.value? ((key, value) :: entries) = field.value? entries :=
  value?_cons_of_other fun same =>
    names (String.toList_inj.mp (Option.some.inj (named.symm.trans same))).symm

theorem value?_cons_of_standard (named : key.key? = some field.name.toList)
    (absent : Tree.values field.name entries = []) (standard : field.IsStandard value) :
    field.value? ((key, value) :: entries) = field.value? entries := by
  obtain ⟨a, isStandard, holds⟩ := standard
  simp [value?, isStandard, Tree.optional?, Tree.field?, Tree.values_cons_of_key named, absent,
    holds]

theorem value?_cons_of_same (named : key.key? = some field.name.toList)
    (same : field.shape.content? value = field.shape.content? value') :
    field.value? ((key, value) :: entries) = field.value? ((key, value') :: entries) := by
  refine value?_congr ?_
  rw [Tree.field?, Tree.field?, Tree.values_cons_of_key named, Tree.values_cons_of_key named]
  cases Tree.values field.name entries with
  | nil => exact congrArg (Option.map some) same
  | cons => rfl

end Section.Field

/-! ## Defaults -/

namespace Yaml.Tree

/-- A plain scalar without a tag. -/
def plain (text : String) : Tree :=
  .scalar ⟨none, .plain, text.toList⟩

/-- A mapping with plain keys. -/
def plainMapping (entries : List (String × Tree)) : Tree :=
  .mapping (entries.map fun entry => (plain entry.1, entry.2))

end Yaml.Tree

namespace Section

open Yaml.Tree (plain plainMapping)

/-- The keys that may be left out, each with its default written out. -/
def defaults : List (Section × String × Tree) :=
  let backoff := plainMapping [("enabled", plain "true"), ("max_secs", plain "60")]
  let initial := plainMapping
    [("service", plain "grpc"), ("port", plain "57777"), ("tls", plain "false")]
  [(controller, "interval_secs", plain "5"), (controller, "apply_timeout_secs", plain "10"),
    (controller, "backoff", backoff), (controller, "backoff", plainMapping []),
    (.backoff, "enabled", plain "true"), (.backoff, "max_secs", plain "60"),
    (simulation, "initial_state", initial), (simulation, "reject_first_applies", plain "0"),
    (config, "controller", plainMapping [("interval_secs", plain "5"),
      ("apply_timeout_secs", plain "10"), ("backoff", backoff)]),
    (config, "controller", plainMapping []),
    (config, "simulation", plainMapping
      [("initial_state", initial), ("reject_first_applies", plain "0")]),
    (config, "simulation", plainMapping [])]

/-- A tree under a key of a section says what goes without saying. -/
def IsDefault (part : Section) (name : String) (tree : Tree) : Prop :=
  ∃ field, part.fields.find? (·.name == name) = some field ∧ field.IsStandard tree

theorem IsDefault.exists_field {part : Section} {name : String} {tree : Tree}
    (h : part.IsDefault name tree) :
    ∃ field ∈ part.fields, field.name = name ∧ field.IsStandard tree := by
  obtain ⟨field, found, standard⟩ := h
  have same := List.find?_some found
  simp only [beq_iff_eq] at same
  exact ⟨field, List.mem_of_find?_eq_some found, same, standard⟩

theorem isDefault_of_mem_defaults {part : Section} {name : String} {tree : Tree}
    (member : (part, name, tree) ∈ defaults) : part.IsDefault name tree := by
  simp only [defaults, List.mem_cons, List.not_mem_nil, or_false] at member
  rcases member with is | is | is | is | is | is | is | is | is | is | is | is <;>
  · cases is
    exact ⟨_, rfl, _, rfl, rfl⟩

end Section

/-! ## Sections by their fields -/

namespace Section

variable {part : Section} {tree tree' : Tree} {entries entries' : List (Tree × Tree)}

/-- A section is put together from its entries, and these count by its fields alone. -/
theorem exists_content?_eq_bind (part : Section) :
    ∃ f : List (Tree × Tree) → Option part.Content,
      (∀ tree, part.content? tree = tree.section?.bind f) ∧
      ∀ entries entries', (∀ field ∈ part.fields, field.value? entries = field.value? entries') →
        f entries = f entries' := by
  cases part
  case config =>
    refine ⟨_, fun _ => rfl, fun entries entries' same => ?_⟩
    simp only [fields, List.forall_mem_cons] at same
    obtain ⟨device, intent, controller, simulation, -⟩ := same
    exact Option.bind_congr' device fun _ _ => Option.bind_congr' intent fun _ _ =>
      Option.bind_congr' controller fun _ _ => Option.bind_congr' simulation fun _ _ => rfl
  case service | controller =>
    refine ⟨_, fun _ => rfl, fun entries entries' same => ?_⟩
    simp only [fields, List.forall_mem_cons] at same
    obtain ⟨first, second, third, -⟩ := same
    exact Option.bind_congr' first fun _ _ => Option.bind_congr' second fun _ _ =>
      Option.bind_congr' third fun _ _ => rfl
  case device | backoff | simulation =>
    refine ⟨_, fun _ => rfl, fun entries entries' same => ?_⟩
    simp only [fields, List.forall_mem_cons] at same
    obtain ⟨first, second, -⟩ := same
    exact Option.bind_congr' first fun _ _ => Option.bind_congr' second fun _ _ => rfl

/-- What a tree holds as a section depends on its entries alone. -/
theorem content?_congr (same : tree.entries? = tree'.entries?) :
    part.content? tree = part.content? tree' := by
  obtain ⟨f, content, -⟩ := part.exists_content?_eq_bind
  rw [content, content, Tree.section?, Tree.section?, same]

/-- What a mapping holds as a section depends on the values of its fields alone. -/
theorem content?_mapping_congr (keyed : Tree.AreKeyed entries ↔ Tree.AreKeyed entries')
    (same : ∀ field ∈ part.fields, field.value? entries = field.value? entries') :
    part.content? (.mapping entries) = part.content? (.mapping entries') := by
  obtain ⟨f, content, byFields⟩ := part.exists_content?_eq_bind
  rw [content, content]
  by_cases areKeyed : Tree.AreKeyed entries
  · have written : (Tree.mapping entries).section? = some entries :=
      Tree.section?_eq_some_iff.mpr ⟨rfl, areKeyed⟩
    have written' : (Tree.mapping entries').section? = some entries' :=
      Tree.section?_eq_some_iff.mpr ⟨rfl, keyed.mp areKeyed⟩
    rw [written, written']
    exact byFields entries entries' same
  · rw [Tree.section?_mapping_of_not areKeyed, Tree.section?_mapping_of_not (mt keyed.mpr areKeyed)]

end Section

/-! ## Steps -/

/-- A step from what stands for a section to what says the same in other words. -/
inductive Restates : Section → Tree → Tree → Prop where
  /-- Nothing at all is written as a mapping. -/
  | blank {part : Section} {tree : Tree} (empty : tree.entries? = some []) :
      Restates part tree (.mapping [])
  /-- The entries are put in another order. -/
  | permute {part : Section} {entries entries' : List (Tree × Tree)}
      (perm : entries.Perm entries') : Restates part (.mapping entries) (.mapping entries')
  /-- Anything is put under a key that is no field of the section. -/
  | ignored {part : Section} {entries : List (Tree × Tree)} {key value : Tree} {name : List Char}
      (named : key.key? = some name) (unknown : ∀ field ∈ part.fields, field.name.toList ≠ name) :
      Restates part (.mapping entries) (.mapping ((key, value) :: entries))
  /-- A field that is left out is written with its default. -/
  | standard {part : Section} {entries : List (Tree × Tree)} {key value : Tree} {name : String}
      (named : key.key? = some name.toList) (absent : Tree.values name entries = [])
      (isDefault : part.IsDefault name value) :
      Restates part (.mapping entries) (.mapping ((key, value) :: entries))
  /-- A section inside of the section is written in other words. -/
  | inside {part part' : Section} {entries : List (Tree × Tree)} {key value value' : Tree}
      {field : Section.Field} (member : field ∈ part.fields) (shape : field.shape = .nested part')
      (named : key.key? = some field.name.toList) (step : Restates part' value value') :
      Restates part (.mapping ((key, value) :: entries)) (.mapping ((key, value') :: entries))

namespace Restates

variable {part : Section} {tree tree' : Tree}

/-- What a section holds is the same in other words. -/
theorem content?_eq (step : Restates part tree tree') :
    part.content? tree = part.content? tree' := by
  induction step with
  | blank empty => exact Section.content?_congr empty
  | permute perm =>
    exact Section.content?_mapping_congr (Tree.AreKeyed.perm perm) fun _ _ =>
      Section.Field.value?_perm perm
  | @ignored part entries key value name named unknown =>
    refine Section.content?_mapping_congr (Tree.areKeyed_cons named) fun field member => ?_
    have other : key.key? ≠ some field.name.toList := fun same =>
      unknown field member (Option.some.inj (same.symm.trans named))
    exact (Section.Field.value?_cons_of_other other).symm
  | @standard part entries key value name named absent isDefault =>
    obtain ⟨field, member, rfl, standard⟩ := isDefault.exists_field
    refine Section.content?_mapping_congr (Tree.areKeyed_cons named) fun other member' => ?_
    by_cases names : other.name = field.name
    · cases List.inj_on_of_nodup_map part.distinct member' member names
      exact (Section.Field.value?_cons_of_standard named absent standard).symm
    · exact (Section.Field.value?_cons_of_named named names).symm
  | @inside part part' entries key value value' field member shape named step ih =>
    refine Section.content?_mapping_congr Tree.areKeyed_cons_iff fun other member' => ?_
    by_cases names : other.name = field.name
    · cases List.inj_on_of_nodup_map part.distinct member' member names
      refine Section.Field.value?_cons_of_same named ?_
      rw [shape]
      exact ih
    · rw [Section.Field.value?_cons_of_named named names,
        Section.Field.value?_cons_of_named named names]

end Restates

/-- Words that are the same, by any chain of steps back and forth. -/
def Restated (tree tree' : Tree) : Prop :=
  Relation.EqvGen (Restates .config) tree tree'

/-- The same configuration is in the same words. -/
theorem Restated.config?_eq {tree tree' : Tree} (restated : Restated tree tree') :
    tree.config? = tree'.config? := by
  induction restated with
  | rel _ _ step => exact step.content?_eq
  | refl => rfl
  | symm _ _ _ ih => exact ih.symm
  | trans _ _ _ _ _ first second => exact first.trans second

namespace Config

/--
Documents in other words are taken for the same configuration: keys in another order, defaults
written out or left out, anything put under unknown keys or taken away, in any section.
-/
theorem accept_of_restated {document document' : Document} {tree tree' : Tree}
    (composed : document.IsComposed tree) (composed' : document'.IsComposed tree')
    (restated : Restated tree tree') (config : Config) :
    (accept document = .ok config ↔ accept document' = .ok config) ∧
      (∀ text text', Document.ofText text = document → Document.ofText text' = document' →
        (ofText text = .ok config ↔ ofText text' = .ok config)) ∧
      ∀ part name value, (part, name, value) ∈ Section.defaults → part.IsDefault name value := by
  have same : accept document = .ok config ↔ accept document' = .ok config := by
    rw [accept_eq_ok_iff composed, accept_eq_ok_iff composed', restated.config?_eq]
  refine ⟨same, fun text text' read read' => ?_, fun _ _ _ => Section.isDefault_of_mem_defaults⟩
  rw [ofText_eq_accept, ofText_eq_accept, read, read']
  exact same

namespace Brief

def device : Json :=
  .object [("hostname", .text "router1"), ("platform", .text "ios-xr")]

def intent : Json :=
  .object [("service", .text "gnmi"), ("port", .number 57400), ("tls", .flag true)]

/-- A document with nothing in it that may be left out. -/
def whole : Json :=
  .object [("device", device), ("intent", intent)]

def turned : Json :=
  .object [("tls", .flag true), ("service", .text "gnmi"), ("port", .number 57400)]

def controller : Json :=
  .object [("backoff", .object [("enabled", .flag true)])]

/-- The same in other words. -/
def restated : Json :=
  .object [("note", .object [("device", .text "router2")]), ("controller", controller),
    ("intent", turned), ("device", device)]

theorem restated_whole : Restated whole.tree restated.tree := by
  have swapped : Restates .config whole.tree
      (Json.object [("intent", intent), ("device", device)]).tree :=
    .permute (.swap ..)
  have inside : Restates .config (Json.object [("intent", intent), ("device", device)]).tree
      (Json.object [("intent", turned), ("device", device)]).tree :=
    .inside (.tail _ (.head _)) rfl rfl (.permute ((List.Perm.cons _ (.swap ..)).trans (.swap ..)))
  have written : Restates .config (Json.object [("intent", turned), ("device", device)]).tree
      (Json.object [("controller", controller), ("intent", turned), ("device", device)]).tree :=
    .standard rfl rfl (show Section.config.IsDefault "controller" _ from ⟨_, rfl, _, rfl, rfl⟩)
  have noted : Restates .config
      (Json.object [("controller", controller), ("intent", turned), ("device", device)]).tree
      restated.tree :=
    .ignored rfl (by decide)
  exact .trans _ _ _ (.rel _ _ swapped) <| .trans _ _ _ (.rel _ _ inside) <|
    .trans _ _ _ (.rel _ _ written) (.rel _ _ noted)

def config : Config where
  device := ⟨"router1", "ios-xr"⟩
  intent := ⟨"gnmi", 57400, true⟩

theorem config?_whole : whole.tree.config? = some config := by
  have read (port : Tree) (same : port = Tree.plain "57400") :
      (Tree.mapping [((Json.text "device").tree, device.tree), ((Json.text "intent").tree,
        .mapping [((Json.text "service").tree, (Json.text "gnmi").tree),
          ((Json.text "port").tree, port),
          ((Json.text "tls").tree, (Json.flag true).tree)])]).config? = some config := by
    rw [same]
    rfl
  have digits : Text.Decimal.digits 57400 = "57400".toList := by
    simp [Text.Decimal.digits, Text.Decimal.digitChar]
  exact read (Json.number 57400).tree (by rw [Json.tree, digits]; rfl)

theorem named : ∀ name ∈ ["device", "hostname", "platform", "intent", "service", "port", "tls",
    "note", "controller", "backoff", "enabled"], Json.IsName name := by
  decide

theorem portable : ∀ text ∈ ["router1", "router2", "ios-xr", "gnmi"],
    ∀ c ∈ text.toList, isPortable c = true := by
  have all : ["router1", "router2", "ios-xr", "gnmi"].all (·.toList.all isPortable) = true := by
    decide
  exact fun text member => List.all_eq_true.mp (List.all_eq_true.mp all text member)

theorem isPortable_device : device.IsPortable :=
  ⟨named "hostname" (by decide), portable "router1" (by decide), named "platform" (by decide),
    portable "ios-xr" (by decide), trivial⟩

theorem isComposed_whole : (Document.ofText whole.pretty).IsComposed whole.tree :=
  isComposed_of_object ⟨named "device" (by decide), isPortable_device,
    named "intent" (by decide), ⟨named "service" (by decide), portable "gnmi" (by decide),
      named "port" (by decide), trivial, named "tls" (by decide), trivial, trivial⟩, trivial⟩

theorem isComposed_restated : (Document.ofText restated.pretty).IsComposed restated.tree :=
  isComposed_of_object ⟨named "note" (by decide),
    ⟨named "device" (by decide), portable "router2" (by decide), trivial⟩,
    named "controller" (by decide), ⟨named "backoff" (by decide),
      ⟨named "enabled" (by decide), trivial, trivial⟩, trivial⟩,
    named "intent" (by decide), ⟨named "tls" (by decide), trivial,
      named "service" (by decide), portable "gnmi" (by decide), named "port" (by decide),
      trivial, trivial⟩,
    named "device" (by decide), isPortable_device, trivial⟩

theorem ofText_whole : ofText whole.pretty = .ok config := by
  rw [ofText_eq_accept, accept_eq_ok_iff isComposed_whole]
  exact ⟨config?_whole, by decide⟩

end Brief

theorem brief_restated :
    Restated Brief.whole.tree Brief.restated.tree ∧
      ofText Brief.whole.pretty = .ok Brief.config ∧
      ofText Brief.restated.pretty = .ok Brief.config := by
  obtain ⟨-, same, -⟩ := accept_of_restated Brief.isComposed_whole Brief.isComposed_restated
    Brief.restated_whole Brief.config
  exact ⟨Brief.restated_whole, Brief.ofText_whole, (same _ _ rfl rfl).mp Brief.ofText_whole⟩

end Config

end ClosedLoop
