import ClosedLoop.Proofs.ResolvedConfig

/-!
# Trees without places

A document with its aliases resolved is a tree that says neither where its nodes stand nor which of
them are one. What a reading yields depends on this tree alone; where things stand matters only for
the text of a failure.

* `Yaml.Composes` — the tree at a node
* `Yaml.Tree.field?` — what is written under a key that may stand once
* `ReadsAs` — a reading yields what a tree holds, wherever it stands
* `readsAs_text`, `readsAs_flag`, `readsAs_word32`, `readsAs_word64` — what scalars hold
* `isComposed_of_object` — the tree of a text that is written as JSON
* `Json.number?_tree` — the numbers that are read, of any length
-/

namespace ClosedLoop

open Yaml (Document Node Scalar)

namespace Yaml

/-! ## Trees -/

/-- A node with its aliases resolved, wherever it stands. -/
inductive Tree where
  | scalar (scalar : Scalar)
  | sequence (items : List Tree)
  | mapping (entries : List (Tree × Tree))
  | nothing

mutual

/-- A node of a document, or the one that it stands for, is the root of a tree. -/
inductive Composes (document : Document) : Node → Tree → Prop where
  | scalar {node : Node} {start : Position} {scalar : Scalar}
      (is : document.follow node = .scalar start scalar) : Composes document node (.scalar scalar)
  | sequence {node : Node} {start : Position} {items : List Node} {trees : List Tree}
      (is : document.follow node = .sequence start items)
      (parts : ComposesItems document items trees) : Composes document node (.sequence trees)
  | mapping {node : Node} {start : Position} {entries : List (Node × Node)}
      {trees : List (Tree × Tree)} (is : document.follow node = .mapping start entries)
      (parts : ComposesEntries document entries trees) : Composes document node (.mapping trees)
  | nothing {node : Node} {start : Position} (is : document.follow node = .nothing start) :
      Composes document node .nothing

/-- Nodes are the roots of trees, one by one. -/
inductive ComposesItems (document : Document) : List Node → List Tree → Prop where
  | nil : ComposesItems document [] []
  | cons {node : Node} {tree : Tree} {nodes : List Node} {trees : List Tree}
      (first : Composes document node tree) (others : ComposesItems document nodes trees) :
      ComposesItems document (node :: nodes) (tree :: trees)

/-- Keys and values are the roots of trees, one by one. -/
inductive ComposesEntries (document : Document) :
    List (Node × Node) → List (Tree × Tree) → Prop where
  | nil : ComposesEntries document [] []
  | cons {key value : Node} {name tree : Tree} {entries : List (Node × Node)}
      {trees : List (Tree × Tree)} (named : Composes document key name)
      (holds : Composes document value tree) (others : ComposesEntries document entries trees) :
      ComposesEntries document ((key, value) :: entries) ((name, tree) :: trees)

end

/-- A whole document is a tree. -/
structure Document.IsComposed (document : Document) (tree : Tree) : Prop where
  complete : document.complete = true
  root : Composes document document.root tree

namespace Tree

/-! ## Scalars -/

def scalar? : Tree → Option Scalar
  | .scalar content => some content
  | _ => none

/-- The text of a scalar, as a key. -/
def key? (tree : Tree) : Option (List Char) :=
  tree.scalar?.map (·.text)

/-- The text of a scalar. -/
def text? (tree : Tree) : Option String :=
  tree.scalar?.map fun scalar => String.ofList scalar.text

/-- The truth value that a tree holds. -/
def flag? (tree : Tree) : Option Bool :=
  tree.scalar?.bind fun scalar => if scalar.mayBe .bool then bool? scalar.text else none

/-- The number below a bound that a tree holds. -/
def number? (bound : Nat) (tree : Tree) : Option Nat :=
  tree.scalar?.bind fun scalar =>
    (if scalar.mayBe .integer then unsigned? UInt64.size scalar.text else none).filter (· < bound)

def word32? (tree : Tree) : Option UInt32 :=
  (tree.number? UInt32.size).map Nat.toUInt32

def word64? (tree : Tree) : Option UInt64 :=
  (tree.number? UInt64.size).map Nat.toUInt64

/-! ## Entries -/

/-- The entries of what stands for a section: a mapping, or nothing at all. -/
def entries? : Tree → Option (List (Tree × Tree))
  | .mapping entries => some entries
  | .nothing => some []
  | .scalar content =>
    if content.text.isEmpty && content.style == .plain then some [] else none
  | .sequence _ => none

/-- The keys are scalars. -/
def AreKeyed (entries : List (Tree × Tree)) : Prop :=
  ∀ entry ∈ entries, entry.1.key?.isSome = true

/-- The entries of a section, whose keys are scalars. -/
def section? (tree : Tree) : Option (List (Tree × Tree)) :=
  tree.entries?.filter fun entries => entries.all (·.1.key?.isSome)

/-- The values under a key. -/
def values (name : String) (entries : List (Tree × Tree)) : List Tree :=
  (entries.filter fun entry => entry.1.key? == some name.toList).map (·.2)

section

variable {α : Type} (holds : Tree → Option α) (name : String) (entries : List (Tree × Tree))

/-- What is written under a key, which may stand only once. -/
def field? : Option (Option α) :=
  match values name entries with
  | [] => some none
  | [value] => (holds value).map some
  | _ => none

/-- What is written under a key that has to be there. -/
def required? : Option α :=
  (field? holds name entries).join

/-- What is written under a key, or what goes without saying. -/
def optional? (standard : α) : Option α :=
  (field? holds name entries).map (·.getD standard)

end

end Tree

end Yaml

/-! ## Readings -/

open Yaml

/-- A reading yields what a tree holds, wherever the tree stands. -/
def ReadsAs {α : Type} (document : Document) (read : Path → Node → Reading α)
    (holds : Tree → Option α) : Prop :=
  ∀ path node tree, Composes document node tree → ∀ a,
    read path node = .ok a ↔ holds tree = some a

section

variable {document : Document} {α β : Type}

namespace ReadsAs

variable {read : Path → Node → Reading α} {holds : Tree → Option α} {node : Node} {tree : Tree}

/-- Where a tree holds nothing of the kind, the reading fails. -/
theorem exists_error (h : ReadsAs document read holds) (path : Path)
    (composed : Composes document node tree) (nothing : holds tree = none) :
    ∃ failure, read path node = .error failure := by
  cases result : read path node with
  | error failure => exact ⟨failure, rfl⟩
  | ok a => exact nomatch nothing.symm.trans ((h path node tree composed a).mp result)

theorem map (h : ReadsAs document read holds) (f : α → β) :
    ReadsAs document (fun path node => (read path node).map f)
      (fun tree => (holds tree).map f) := by
  intro path node tree composed b
  cases held : holds tree with
  | none =>
    obtain ⟨failure, fails⟩ := h.exists_error path composed held
    simp [fails, held, Except.map]
  | some a =>
    have read := (h path node tree composed a).mpr held
    simp [read, held, Except.map]

end ReadsAs

/-- A scalar is read by what it says, and nothing else is. -/
theorem readsAs_scalar {expected : Expected} {read : Site → Scalar → Reading α}
    {holds : Scalar → Option α}
    (same : ∀ site scalar a, read site scalar = .ok a ↔ holds scalar = some a) :
    ReadsAs document (fun path node => readScalar document path expected read node)
      (fun tree => tree.scalar?.bind holds) := by
  intro path node tree composed a
  cases composed with
  | scalar is => simpa [readScalar, is, Tree.scalar?] using same _ _ a
  | sequence is => simp [readScalar, is, Tree.scalar?, Site.fail]
  | mapping is => simp [readScalar, is, Tree.scalar?, Site.fail]
  | nothing is => simp [readScalar, is, Tree.scalar?]

/-- Any scalar is read. -/
theorem readsAs_scalarText {expected : Expected} (f : Scalar → α) :
    ReadsAs document
      (fun path node => readScalar document path expected (fun _ scalar => .ok (f scalar)) node)
      (fun tree => tree.scalar?.map f) := by
  have read : ReadsAs document
      (fun path node => readScalar document path expected (fun _ scalar => .ok (f scalar)) node)
      (fun tree => tree.scalar?.bind fun scalar => some (f scalar)) :=
    readsAs_scalar (by simp)
  simp only [Option.map_eq_bind]
  exact read

theorem readsAs_key : ReadsAs document (readKey document) Tree.key? :=
  readsAs_scalarText _

theorem readsAs_text : ReadsAs document (readText document) Tree.text? :=
  readsAs_scalarText _

theorem Site.failAtScalar_ne_ok {site : Site} {scalar : Scalar} {expected : Expected} {a : α} :
    site.failAtScalar scalar expected ≠ .ok a := by
  unfold Site.failAtScalar
  split <;> exact nofun

theorem readsAs_flag : ReadsAs document (readFlag document) Tree.flag? := by
  refine readsAs_scalar fun site scalar b => ?_
  split
  · next read => simp [read]
  · next unread => simp [unread, Site.failAtScalar_ne_ok]

theorem readsAs_number {expected : Expected} {bound : Nat} :
    ReadsAs document (fun path => readNumber document path expected bound)
      (Tree.number? bound) := by
  refine readsAs_scalar fun site scalar n => ?_
  split
  · next m read =>
    rw [read]
    by_cases below : m < bound <;> simp [below, Site.fail, Option.filter]
  · next unread => simp [unread, Site.failAtScalar_ne_ok]

theorem readsAs_word32 : ReadsAs document (readWord32 document) Tree.word32? :=
  readsAs_number.map _

theorem readsAs_word64 : ReadsAs document (readWord64 document) Tree.word64? :=
  readsAs_number.map _

end

/-! ## Trees of JSON -/

namespace Json

mutual

/-- The tree that a value is written as. -/
def tree : Json → Tree
  | flag b => .scalar ⟨none, .plain, (if b then "true" else "false").toList⟩
  | number n => .scalar ⟨none, .plain, Text.Decimal.digits n⟩
  | text s => .scalar ⟨none, .doubleQuoted, s.toList⟩
  | object members => .mapping (memberTrees members)

def memberTrees : List (String × Json) → List (Tree × Tree)
  | [] => []
  | (name, value) :: rest =>
    (.scalar ⟨none, .doubleQuoted, name.toList⟩, value.tree) :: memberTrees rest

end

end Json

section

variable {document : Document}

mutual

theorem composes_of_shows {value : Json} {node : Node} (shows : Shows value node) :
    Composes document node value.tree := by
  cases shows with
  | flag b start => exact .scalar rfl
  | number n start => exact .scalar rfl
  | text s start => exact .scalar rfl
  | object start all => exact .mapping rfl (composesEntries_of_showsAll all)

theorem composesEntries_of_showsAll {members : List (String × Json)} {entries : List (Node × Node)}
    (all : ShowsAll members entries) :
    ComposesEntries document entries (Json.memberTrees members) := by
  cases all with
  | nil => exact .nil
  | cons name start first others =>
    exact .cons (.scalar rfl) (composes_of_shows first) (composesEntries_of_showsAll others)

end

end

/-- The text of an object that has members is a document with the tree of the object. -/
theorem isComposed_of_object {name : String} {value : Json} {rest : List (String × Json)}
    (portable : (Json.object ((name, value) :: rest)).IsPortable) :
    (Document.ofText (Json.object ((name, value) :: rest)).pretty).IsComposed
      (Json.object ((name, value) :: rest)).tree := by
  obtain ⟨node, shows, document⟩ := document_of_object portable (List.forall_mem_nil _)
  rw [List.append_nil] at document
  rw [Json.pretty, document]
  exact ⟨rfl, composes_of_shows shows⟩

/-! ## Numbers -/

/-- What is read below a bound is what is read below a greater one, if it is below the bound. -/
theorem Yaml.unsigned?_eq_filter {bound bound' : Nat} (le : bound ≤ bound') (cs : List Char) :
    unsigned? bound cs = (unsigned? bound' cs).filter (· < bound) := by
  have narrow (n : Nat) : (if n < bound then some n else none) =
      (if n < bound' then some n else none).filter (· < bound) := by
    by_cases below : n < bound
    · simp [below, Nat.lt_of_lt_of_le below le, Option.filter]
    · by_cases below' : n < bound' <;> simp [below, below', Option.filter]
  unfold unsigned?
  simp only
  split
  · exact narrow _
  · split
    · rfl
    · split
      · exact narrow _
      · rfl

namespace Json

/-- A number in decimal is read below a bound where it is below it, and is not cut down to it. -/
theorem number?_tree (n bound : Nat) :
    (number n).tree.number? bound =
      if n < UInt64.size ∧ n < bound then some n else none := by
  have digits : unsigned? UInt64.size (Text.Decimal.digits n) =
      if n < UInt64.size then some n else none := by
    rw [unsigned?_eq_filter (Nat.le_max_left UInt64.size (n + 1)),
      unsigned?_digits (Nat.lt_of_succ_le (Nat.le_max_right ..))]
    by_cases below : n < UInt64.size <;> simp [below, Option.filter]
  have plain : Scalar.mayBe ⟨none, .plain, Text.Decimal.digits n⟩ .integer = true := rfl
  rw [tree, Tree.number?, Tree.scalar?, Option.bind_some, if_pos plain, digits]
  by_cases short : n < UInt64.size <;> by_cases below : n < bound <;>
    simp [short, below, Option.filter]

theorem word32?_tree (n : Nat) : (number n).tree.word32? =
    if n < UInt32.size then some n.toUInt32 else none := by
  rw [Tree.word32?, number?_tree]
  by_cases below : n < UInt32.size
  · have short : n < UInt64.size := Nat.lt_trans below (by decide)
    simp [below, short]
  · simp [below]

end Json

end ClosedLoop
