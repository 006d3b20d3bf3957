import ClosedLoop.CommandLine.Session
import ClosedLoop.Proofs.JsonTree

/-!
# Resolved configurations

A configuration that is shown as JSON has every field written out, and the text is a configuration
again: the same one, as long as its texts hold no character that documents of YAML leave out.

* `Yaml.unsigned?_digits` — a number is read as one from its digits
* `ReadsBack` — whatever node has the shape of a value, this is what is read from it
* `readSection_of_members` — a section is read back from its members, one by one
* `ofText_resolved` — a whole configuration is read back from its JSON
-/

namespace ClosedLoop

open Text (Decimal.digits)
open Yaml (Document Node Style)

/-! ## Numbers -/

namespace Yaml

theorem based?_of_digits {cs : List Char} (digits : ∀ c ∈ cs, c.isDigit = true) :
    based? cs = none := by
  unfold based?
  split
  · next letter rest =>
    have digit := digits letter (List.mem_cons_of_mem _ (List.mem_cons_self ..))
    have noBase : base? letter = none := by
      unfold base?
      split
      · exact absurd rfl (ne_of_test digit (d := 'x') rfl)
      · exact absurd rfl (ne_of_test digit (d := 'o') rfl)
      · exact absurd rfl (ne_of_test digit (d := 'b') rfl)
      · rfl
    rw [noBase, Option.bind_none]
  · rfl

theorem isSign_of_isDigit {c : Char} (digit : c.isDigit = true) : isSign c = false := by
  have plus : c ≠ '+' := ne_of_test digit rfl
  have minus : c ≠ '-' := ne_of_test digit rfl
  simp [isSign, plus, minus]

theorem isZeroPadded_digits (n : Nat) : isZeroPadded (Decimal.digits n) = false := by
  rcases Text.Decimal.digits_begin n with zero | ⟨c, cs, begins, other⟩
  · rw [zero]
    rfl
  · have digit := Text.Decimal.isDigit_of_mem_digits n c (begins ▸ List.mem_cons_self ..)
    rw [begins]
    simp [isZeroPadded, isSign_of_isDigit digit, other]

/-- A number is read from its digits. -/
theorem unsigned?_digits {n bound : Nat} (below : n < bound) :
    unsigned? bound (Decimal.digits n) = some n := by
  have unsigned : ((Decimal.digits n).head? == some '+') = false := by
    obtain ⟨c, cs, begins⟩ := List.exists_cons_of_ne_nil (Text.Decimal.digits_ne_nil n)
    have digit := Text.Decimal.isDigit_of_mem_digits n c (begins ▸ List.mem_cons_self ..)
    rw [begins, List.head?_cons]
    simpa using ne_of_test digit (d := '+') rfl
  rw [unsigned?, unsigned]
  simp only [Bool.false_eq_true, if_false,
    based?_of_digits (Text.Decimal.isDigit_of_mem_digits n), isZeroPadded_digits,
    Text.Decimal.read?_digits, below, if_true]

end Yaml

/-! ## Scalars -/

/-- Whatever node has the shape of a value, this is what is read from it. -/
def ReadsBack {α : Type} (read : Path → Node → Reading α) (value : Json) (a : α) : Prop :=
  ∀ path node, Shows value node → read path node = .ok a

section

variable (document : Document)

theorem readsBack_text (s : String) : ReadsBack (readText document) (.text s) s := by
  rintro path _ ⟨⟩
  show Except.ok (String.ofList s.toList) = _
  rw [String.ofList_toList]

theorem readsBack_flag (b : Bool) : ReadsBack (readFlag document) (.flag b) b := by
  rintro path _ ⟨⟩
  cases b <;> rfl

theorem readNumber_of_shows {n bound : Nat} {node : Node} (shows : Shows (.number n) node)
    (below : n < bound) (short : n < UInt64.size) (path : Path) (expected : Expected) :
    readNumber document path expected bound node = .ok n := by
  cases shows with
  | number _ start =>
    have plain : Yaml.Scalar.mayBe ⟨none, .plain, Decimal.digits n⟩ .integer = true := rfl
    simp only [readNumber, readScalar, Document.follow, Node.ofScalar, plain, if_true,
      Yaml.unsigned?_digits short, below]

theorem readsBack_word32 (n : UInt32) :
    ReadsBack (readWord32 document) (.number n.toNat) n := by
  intro path node shows
  have below : n.toNat < UInt32.size := n.toNat_lt
  rw [readWord32, readNumber_of_shows document shows below (Nat.lt_trans below (by decide))]
  show Except.ok n.toNat.toUInt32 = _
  rw [Nat.toUInt32, UInt32.ofNat_toNat]

theorem readsBack_word64 (n : UInt64) :
    ReadsBack (readWord64 document) (.number n.toNat) n := by
  intro path node shows
  have below : n.toNat < UInt64.size := n.toNat_lt
  rw [readWord64, readNumber_of_shows document shows below below]
  show Except.ok n.toNat.toUInt64 = _
  rw [Nat.toUInt64, UInt64.ofNat_toNat]

end

/-! ## Sections -/

/-- A key is looked up among those that are known, whose names differ. -/
theorem find?_entry {σ : Type} {before after : List (Entry σ)} {entry : Entry σ}
    (distinct : ((before ++ entry :: after).map (·.name)).Nodup) :
    (before ++ entry :: after).find? (·.name.toList == entry.name.toList) = some entry := by
  have missing : before.find? (·.name.toList == entry.name.toList) = none := by
    rw [List.find?_eq_none]
    intro other member same
    rw [List.map_append, List.nodup_append] at distinct
    have same' : other.name = entry.name := String.toList_inj.mp (eq_of_beq same)
    exact distinct.2.2 _ (List.mem_map_of_mem member) _ (List.mem_cons_self ..) same'
  rw [List.find?_append, missing, Option.none_or, List.find?_cons_of_pos]
  exact beq_self_eq_true _

/--
Entries of the shape of some members take what has been read of a section from one state to another,
if the members have the last ones of the known keys, in order.
-/
def Fills {σ : Type} (document : Document) (known last : List (Entry σ))
    (members : List (String × Json)) (fields fields' : σ) : Prop :=
  last <:+ known → (known.map (·.name)).Nodup → ∀ site entries, ShowsAll members entries →
    readEntries document known site entries fields = .ok fields'

section

variable {document : Document} {σ α : Type} {known : List (Entry σ)}

theorem Fills.nil (fields : σ) : Fills document known [] [] fields fields := by
  rintro suffix distinct site _ ⟨⟩
  rfl

theorem Fills.cons {name : String} {value : Json} {rest : List (String × Json)}
    {fields fields' : σ} {last : List (Entry σ)} {get : σ → Option α} {put : σ → α → σ}
    {read : Path → Node → Reading α} {a : α} (back : ReadsBack read value a)
    (unread : get fields = none) (behind : Fills document known last rest (put fields a) fields') :
    Fills document known (.make name get put read :: last) ((name, value) :: rest) fields
      fields' := by
  rintro ⟨before, rfl⟩ distinct site _ (_ | @⟨_, node, _, entries, _, start, shows, others⟩)
  have key : readKey document site.path (.ofScalar start .doubleQuoted name.toList) =
      .ok name.toList := rfl
  have free : (Entry.make name get put read).isRead fields = false := by
    show (get fields).isSome = false
    rw [unread]
    rfl
  have filled (path : Path) :
      (Entry.make name get put read).read path node fields = .ok (put fields a) := by
    show (read path node).map (put fields) = _
    rw [back path node shows]
    rfl
  have found := find?_entry distinct
  have behind := behind ⟨before ++ [.make name get put read], by simp⟩ distinct site entries others
  rw [readEntries, key]
  simp only [Entry.make] at found free filled behind ⊢
  simp only [found, free, Bool.false_eq_true, if_false, filled, behind]

/-- A section is read back from an object that has all the known keys, in order. -/
theorem readSection_of_members {members : List (String × Json)} {blank last : σ} {a : α}
    {expected : Expected} {finish : Site → σ → Reading α}
    (fills : Fills document known known members blank last)
    (distinct : (known.map (·.name)).Nodup) (whole : ∀ site, finish site last = .ok a)
    (path : Path) (node : Node) (shows : Shows (.object members) node) :
    readSection document path expected known blank finish node = .ok a := by
  obtain _ | _ | _ | @⟨_, entries, start, shows⟩ := shows
  have filled (site : Site) := fills List.suffix_rfl distinct site entries shows
  simp only [readSection, Document.follow, filled, whole]

end

variable (document : Document)

theorem readsBack_device (config : DeviceConfig) :
    ReadsBack (readDevice document) config.toJson config :=
  readSection_of_members (.cons (readsBack_text document _) rfl <|
    .cons (readsBack_text document _) rfl <| .nil _) (by simp [Entry.make]) fun _ => rfl

theorem readsBack_service (config : ServiceConfig) :
    ReadsBack (readService document) config.toJson config :=
  readSection_of_members (.cons (readsBack_text document _) rfl <|
    .cons (readsBack_word32 document _) rfl <| .cons (readsBack_flag document _) rfl <| .nil _)
    (by simp [Entry.make]) fun _ => rfl

theorem readsBack_backoff (config : BackoffConfig) :
    ReadsBack (readBackoff document) config.toJson config :=
  readSection_of_members (.cons (readsBack_flag document _) rfl <|
    .cons (readsBack_word64 document _) rfl <| .nil _) (by simp [Entry.make]) fun _ => rfl

theorem readsBack_controller (config : ControllerConfig) :
    ReadsBack (readController document) config.toJson config :=
  readSection_of_members (.cons (readsBack_word64 document _) rfl <|
    .cons (readsBack_word64 document _) rfl <| .cons (readsBack_backoff document _) rfl <| .nil _)
    (by simp [Entry.make]) fun _ => rfl

theorem readsBack_simulation (config : SimulationConfig) :
    ReadsBack (readSimulation document) config.toJson config :=
  readSection_of_members (.cons (readsBack_service document _) rfl <|
    .cons (readsBack_word32 document _) rfl <| .nil _) (by simp [Entry.make]) fun _ => rfl

theorem readConfig_of_shows (config : Config) (node : Node) (shows : Shows config.toJson node) :
    readConfig document node = .ok config := by
  rw [readConfig]
  exact readSection_of_members (.cons (readsBack_device document _) rfl <|
    .cons (readsBack_service document _) rfl <| .cons (readsBack_controller document _) rfl <|
    .cons (readsBack_simulation document _) rfl <| .nil _) (by simp [Entry.make]) (fun _ => by rfl)
    [] node shows

/-! ## Whole configurations -/

namespace Config

/-- The texts in a configuration. -/
def texts (config : Config) : List String :=
  [config.device.hostname, config.device.platform, config.intent.service,
    config.simulation.initialState.service]

variable {config : Config}

theorem isPortable_toJson
    (portable : ∀ text ∈ config.texts, ∀ c ∈ text.toList, isPortable c = true) :
    config.toJson.IsPortable := by
  simp only [texts, List.forall_mem_cons] at portable
  obtain ⟨hostname, platform, service, initial, -⟩ := portable
  have isName : ∀ name ∈ ["device", "hostname", "platform", "intent", "service", "port", "tls",
      "controller", "interval_secs", "apply_timeout_secs", "backoff", "enabled", "max_secs",
      "simulation", "initial_state", "reject_first_applies"], Json.IsName name := by
    decide
  simp only [List.forall_mem_cons] at isName
  simp only [toJson, DeviceConfig.toJson, ServiceConfig.toJson, ControllerConfig.toJson,
    BackoffConfig.toJson, SimulationConfig.toJson, Json.IsPortable, Json.ArePortable]
  simpa [isName] using And.intro ⟨hostname, platform⟩ ⟨service, initial⟩

/-- Behind the JSON of a valid configuration there may be white space. -/
theorem ofText_toJson (valid : config.Valid)
    (portable : ∀ text ∈ config.texts, ∀ c ∈ text.toList, isPortable c = true) {tail : List Char}
    (white : ∀ c ∈ tail, isWhite c = true) :
    ofText (String.ofList (config.toJson.chars 0 ++ tail)) = .ok config := by
  have written : ∃ node, Shows config.toJson node ∧
      Document.ofText (String.ofList (config.toJson.chars 0 ++ tail)) = ⟨node, [], true⟩ :=
    document_of_object (isPortable_toJson portable) white
  obtain ⟨node, shows, document⟩ := written
  have read : ofDocument ⟨node, [], true⟩ = .ok config := by
    rw [ofDocument, readConfig_of_shows _ config node shows]
    rfl
  have kept : config.fault? = none := valid
  simp only [ofText, document, read, kept]

/-- The JSON of a valid configuration is read back as the configuration. -/
theorem ofText_pretty (valid : config.Valid)
    (portable : ∀ text ∈ config.texts, ∀ c ∈ text.toList, isPortable c = true) :
    ofText config.toJson.pretty = .ok config := by
  have read := ofText_toJson valid portable (List.forall_mem_nil _)
  rwa [List.append_nil] at read

/-- What is read from a text is what is loaded from a file that holds it. -/
theorem loadConfig_of_ofText {text : String} (read : ofText text = .ok config) (path : String) :
    CommandLine.loadConfig (fun _ => .ok text.toUTF8) path = .ok config := by
  have decoded : String.fromUTF8? text.toUTF8 = some text := dif_pos text.isValidUTF8
  have loaded : load (fun _ => .ok text.toUTF8) path = .ok config := by
    show ofBytes text.toUTF8 = _
    rw [ofBytes, decoded]
    exact read
  rw [CommandLine.loadConfig, loaded]

/--
A valid configuration is read back from its JSON, and from what is printed as the resolved
configuration of a file.
-/
theorem ofText_resolved (valid : config.Valid)
    (portable : ∀ text ∈ config.texts, ∀ c ∈ text.toList, isPortable c = true) :
    ofText config.toJson.pretty = .ok config ∧
      ∀ files path, CommandLine.loadConfig files path = .ok config →
        ∃ text, CommandLine.start files path (.check true) = .ok (.shown text) ∧
          ofText text = .ok config := by
  refine ⟨ofText_pretty valid portable, fun files path loaded => ?_⟩
  have printed : CommandLine.unlines [config.toJson.pretty] =
      String.ofList (config.toJson.chars 0 ++ ['\n']) := by
    rw [CommandLine.unlines, Json.pretty, String.ofList_append]
    simp [String.join]
  refine ⟨CommandLine.unlines [config.toJson.pretty], ?_, ?_⟩
  · rw [CommandLine.start, loaded]
    rfl
  · rw [printed]
    exact ofText_toJson valid portable (List.all_eq_true.mp rfl)

/-- A configuration whose texts look like something else. -/
def lookalike : Config where
  device := ⟨" - \"a\": \\ \x01\t\n", "0x10"⟩
  intent := ⟨"true", 65535, true⟩
  controller := ⟨18446744073709551615, 18446744073709551615, ⟨true, 18446744073709551615⟩⟩
  simulation := ⟨⟨" --- # null\n", 1, false⟩, 4294967295⟩

theorem valid_lookalike : lookalike.Valid := by
  decide

theorem portable_lookalike :
    ∀ text ∈ lookalike.texts, ∀ c ∈ text.toList, isPortable c = true := by
  have all : lookalike.texts.all (fun text => text.toList.all isPortable) = true := by decide
  exact fun text member => List.all_eq_true.mp (List.all_eq_true.mp all text member)

theorem lookalike_resolved :
    lookalike.Valid ∧ (∀ text ∈ lookalike.texts, ∀ c ∈ text.toList, isPortable c = true) ∧
      ofText lookalike.toJson.pretty = .ok lookalike ∧
      ∃ text, CommandLine.start (fun _ => .ok lookalike.toJson.pretty.toUTF8) "input.yml"
          (.check true) = .ok (.shown text) ∧ ofText text = .ok lookalike := by
  have resolved := ofText_resolved valid_lookalike portable_lookalike
  have read := ofText_pretty valid_lookalike portable_lookalike
  exact ⟨valid_lookalike, portable_lookalike, resolved.1,
    resolved.2 _ "input.yml" (loadConfig_of_ofText read "input.yml")⟩

end Config

end ClosedLoop
