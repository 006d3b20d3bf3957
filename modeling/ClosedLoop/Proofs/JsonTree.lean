import ClosedLoop.Proofs.JsonTokens
import ClosedLoop.Yaml.Document

/-!
# Trees of JSON

The tokens of a value of JSON say one node, which has the shape of the value: a mapping for an
object, and a scalar for anything else, quoted where it is a text.

* `Shows` — a node has the shape of a value
* `Asks`, `Says` — the events that tokens yield where something is expected, and the node they make
* `Json.isSaid` — the tokens of a value say a node of its shape, by recursion over the value
* `document_of_object` — so does the text of a whole object
-/

namespace ClosedLoop

open Text (Decimal.digits)
open Yaml

/-! ## Nodes of a shape -/

/-- A scalar without a tag. -/
def Yaml.Node.ofScalar (start : Position) (style : Style) (text : List Char) : Node :=
  .scalar start ⟨none, style, text⟩

mutual

/-- A node has the shape of a value. -/
inductive Shows : Json → Node → Prop where
  | flag (b : Bool) (start : Position) :
    Shows (.flag b) (.ofScalar start .plain (if b then "true" else "false").toList)
  | number (n : Nat) (start : Position) :
    Shows (.number n) (.ofScalar start .plain (Decimal.digits n))
  | text (s : String) (start : Position) :
    Shows (.text s) (.ofScalar start .doubleQuoted s.toList)
  | object {members : List (String × Json)} {entries : List (Node × Node)} (start : Position) :
    ShowsAll members entries → Shows (.object members) (.mapping start entries)

/-- The entries of a mapping have the shape of the members of an object. -/
inductive ShowsAll : List (String × Json) → List (Node × Node) → Prop where
  | nil : ShowsAll [] []
  | cons {value : Json} {node : Node} {rest : List (String × Json)} {entries : List (Node × Node)}
    (name : String) (start : Position) :
    Shows value node → ShowsAll rest entries →
      ShowsAll ((name, value) :: rest)
        ((.ofScalar start .doubleQuoted name.toList, node) :: entries)

end

/-! ## Events -/

theorem eventsFrom_step {table : TagTable} {goal : Goal} {tokens : List Token} {step : Step}
    (found : step? table goal tokens = some step) (more : List Goal) :
    eventsFrom table (goal :: more) tokens =
      (step.event.toList ++ (eventsFrom table (step.goals ++ more) step.rest).1,
        (eventsFrom table (step.goals ++ more) step.rest).2) := by
  rw [eventsFrom]
  split
  · next none' => rw [none'] at found; cases found
  · next other => rw [other] at found; cases found; rfl

/-- Where these goals are expected, these tokens yield these events, whatever comes behind. -/
def Asks (goals : List Goal) (tokens : List Token) (events : List Yaml.Event) : Prop :=
  ∀ (table : TagTable) (more : List Goal) (rest : List Token),
    eventsFrom table (goals ++ more) (tokens ++ rest) =
      (events ++ (eventsFrom table more rest).1, (eventsFrom table more rest).2)

namespace Asks

variable {goals goals' : List Goal} {tokens tokens' : List Token} {events events' : List Yaml.Event}

theorem append (h : Asks goals tokens events) (h' : Asks goals' tokens' events') :
    Asks (goals ++ goals') (tokens ++ tokens') (events ++ events') := by
  intro table more rest
  rw [List.append_assoc, List.append_assoc, h, h', List.append_assoc]

theorem nil : Asks [] [] [] := fun _ _ _ => rfl

theorem step {goal : Goal} (h : Asks goals tokens' events) (event : Option Yaml.Event)
    (found : ∀ table rest, step? table goal (tokens ++ rest) =
      some { event, goals, rest := tokens' ++ rest }) :
    Asks [goal] tokens (event.toList ++ events) := by
  intro table more rest
  show eventsFrom table (goal :: more) _ = _
  rw [eventsFrom_step (found table rest) more, h, List.append_assoc]

end Asks

namespace Asks

theorem scalar (inBlock flush : Bool) (style : Style) (text : List Char) (start stop : Position) :
    Asks [.node inBlock flush] [⟨.scalar style text, start, stop⟩]
      [⟨.scalar ⟨none, style, text⟩, start, none⟩] :=
  nil.step (some _) fun _ _ => rfl

theorem mapping {tokens : List Token} {events : List Yaml.Event}
    (h : Asks [.flowKey true] tokens events) (inBlock flush : Bool) (start stop : Position) :
    Asks [.node inBlock flush] (⟨.flowMappingStart, start, stop⟩ :: tokens)
      (⟨.mappingStart, start, none⟩ :: events) :=
  h.step (some _) fun _ _ => rfl

theorem mappingEnd (first : Bool) (start stop : Position) :
    Asks [.flowKey first] [⟨.flowMappingEnd, start, stop⟩] [⟨.mappingEnd, start, none⟩] :=
  nil.step (some _) fun _ _ => by cases first <;> rfl

/-- The first key of a mapping, as if an entry were before it. -/
theorem first {tokens : List Token} {events : List Yaml.Event} {token : Token}
    {start stop : Position}
    (h : Asks [.flowKey false] (⟨.flowEntry, start, stop⟩ :: token :: tokens) events) :
    Asks [.flowKey true] (token :: tokens) events := by
  intro table more rest
  rw [← h table more rest]
  show eventsFrom table (.flowKey true :: more) (token :: (tokens ++ rest)) =
    eventsFrom table (.flowKey false :: more)
      (⟨.flowEntry, start, stop⟩ :: token :: (tokens ++ rest))
  rw [eventsFrom, eventsFrom]
  rfl

/-- A key between the marks around it, the value behind it, and what comes behind that. -/
theorem member {token : Token} {value others : List Token} {events more : List Yaml.Event}
    (h : Asks [.node false false] (token :: value) events)
    (begins : token.kind ≠ .flowEntry ∧ token.kind ≠ .flowMappingEnd)
    (behind : Asks [.flowKey false] others more) (key : List Char)
    (p₁ q₁ p₂ q₂ p₃ q₃ p₄ q₄ : Position) :
    Asks [.flowKey false]
      (⟨.flowEntry, p₁, q₁⟩ :: ⟨.key, p₂, q₂⟩ :: ⟨.scalar .doubleQuoted key, p₃, q₃⟩ ::
        ⟨.value, p₄, q₄⟩ :: (token :: value ++ others))
      ([⟨.scalar ⟨none, .doubleQuoted, key⟩, p₃, none⟩] ++ (events ++ more)) := by
  have valued : Asks [.flowValue] (⟨.value, p₄, q₄⟩ :: (token :: value ++ others))
      (events ++ more) :=
    (h.append behind).step none fun table rest => by
      simp [step?, flowValueStep, begins]
  exact ((scalar false false .doubleQuoted key p₃ q₃).append valued).step none
    fun _ _ => rfl

end Asks

/-! ## Trees -/

/-- An event that no anchor or alias is part of. -/
def IsFree (event : Yaml.Event) : Prop :=
  event.anchor = none ∧ ∀ name, event.kind ≠ .alias name

/-- Events without the names in them, where there are none. -/
def links (events : List Yaml.Event) : List LinkedEvent :=
  events.filterMap (linkKind [])

theorem linkFrom_of_free {events : List Yaml.Event} (free : ∀ event ∈ events, IsFree event)
    (table : AnchorTable) (count : Nat) :
    linkFrom table count events = ⟨links events, [], true⟩ := by
  induction events generalizing count with
  | nil => rfl
  | cons event events ih =>
    obtain ⟨unnamed, kind⟩ := free event (List.mem_cons_self ..)
    have rest := ih (fun e member => free e (List.mem_cons_of_mem _ member)) (count + 1)
    -- Names are looked up in the table for aliases only.
    have found : ∃ link, linkKind table event = some link ∧ linkKind [] event = some link := by
      unfold linkKind
      split
      · next name same => exact absurd same (kind name)
      all_goals exact ⟨_, rfl, rfl⟩
    obtain ⟨link, named, plain⟩ := found
    have here : links (event :: events) = link :: links events := by
      rw [links, List.filterMap_cons, plain]
      rfl
    rw [linkFrom, named, unnamed, rest, here]

/-- Events make a node. -/
structure Says (events : List Yaml.Event) (node : Node) : Prop where
  free : ∀ event ∈ events, IsFree event
  tree : ∀ frames more, treeFrom frames (links events ++ more) = place node frames more

/-- Events make the entries of a mapping, and its end. -/
structure SaysAll (events : List Yaml.Event) (entries : List (Node × Node)) : Prop where
  free : ∀ event ∈ events, IsFree event
  tree : ∀ start before frames more,
    treeFrom (.mapping start before none :: frames) (links events ++ more) =
      place (.mapping start (before.reverse ++ entries)) frames more

theorem Says.scalar (start : Position) (style : Style) (text : List Char) :
    Says [⟨.scalar ⟨none, style, text⟩, start, none⟩] (.ofScalar start style text) where
  free event member := by
    rw [List.mem_singleton.mp member]
    exact ⟨rfl, by simp⟩
  tree frames more := by
    show treeFrom frames (.scalar start ⟨none, style, text⟩ :: more) = _
    rw [treeFrom]
    rfl

theorem links_append (events events' : List Yaml.Event) :
    links (events ++ events') = links events ++ links events' :=
  List.filterMap_append

theorem SaysAll.nil (start : Position) : SaysAll [⟨.mappingEnd, start, none⟩] [] where
  free event member := by
    rw [List.mem_singleton.mp member]
    exact ⟨rfl, by simp⟩
  tree start before frames more := by
    show treeFrom _ (.ending :: more) = _
    rw [treeFrom, List.append_nil]
    rfl

theorem SaysAll.cons {key value : Node} {keyEvents events more : List Yaml.Event}
    {entries : List (Node × Node)} (hk : Says keyEvents key) (hv : Says events value)
    (h : SaysAll more entries) :
    SaysAll (keyEvents ++ (events ++ more)) ((key, value) :: entries) where
  free event member := by
    rcases List.mem_append.mp member with first | rest
    · exact hk.free event first
    · rcases List.mem_append.mp rest with second | last
      · exact hv.free event second
      · exact h.free event last
  tree start before frames rest := by
    rw [links_append, links_append, List.append_assoc, List.append_assoc, hk.tree, place, Frame.put,
      hv.tree, place, Frame.put, h.tree, List.reverse_cons, List.append_assoc]
    rfl

theorem SaysAll.mapping {events : List Yaml.Event} {entries : List (Node × Node)}
    (h : SaysAll events entries) (start : Position) :
    Says (⟨.mappingStart, start, none⟩ :: events) (.mapping start entries) where
  free event member := by
    rcases List.mem_cons.mp member with rfl | rest
    · exact ⟨rfl, by simp⟩
    · exact h.free event rest
  tree frames more := by
    show treeFrom frames (.mappingStart start :: (links events ++ more)) = _
    rw [treeFrom, h.tree]
    rfl

/-! ## Values and members -/

namespace Json

/-- What a value begins with is no mark between values. -/
theorem words_begin (value : Json) : ∃ kind kinds, value.words = kind :: kinds ∧
    kind ≠ .flowEntry ∧ kind ≠ .flowMappingEnd := by
  unfold words
  split <;> exact ⟨_, _, rfl, by simp⟩

/-- The tokens of a member, each by itself. -/
theorem cut_member {tokens : List Token} {name : String} {kinds : List TokenKind}
    (same : tokens.map (·.kind) = .flowEntry :: nameWords name ++ kinds) :
    ∃ p₁ q₁ p₂ q₂ p₃ q₃ p₄ q₄ rest,
      tokens = ⟨.flowEntry, p₁, q₁⟩ :: ⟨.key, p₂, q₂⟩ ::
        ⟨.scalar .doubleQuoted name.toList, p₃, q₃⟩ :: ⟨.value, p₄, q₄⟩ :: rest ∧
      rest.map (·.kind) = kinds := by
  simp only [nameWords, List.cons_append, List.nil_append, List.map_eq_cons_iff] at same
  obtain ⟨⟨_, p₁, q₁⟩, _, rfl, rfl, ⟨_, p₂, q₂⟩, _, rfl, rfl, ⟨_, p₃, q₃⟩, _, rfl, rfl,
    ⟨_, p₄, q₄⟩, rest, rfl, rfl, same⟩ := same
  exact ⟨p₁, q₁, p₂, q₂, p₃, q₃, p₄, q₄, rest, rfl, same⟩

/-- The tokens of a value say a node of its shape. -/
def IsSaid (value : Json) : Prop :=
  ∀ tokens : List Token, tokens.map (·.kind) = value.words →
    ∃ events node, (∀ inBlock flush, Asks [.node inBlock flush] tokens events) ∧
      Says events node ∧ Shows value node

/-- The tokens of members say the entries of a mapping. -/
def AreSaid (members : List (String × Json)) : Prop :=
  ∀ tokens : List Token, tokens.map (·.kind) = memberWords members ++ [.flowMappingEnd] →
    ∃ events entries, Asks [.flowKey false] tokens events ∧ SaysAll events entries ∧
      ShowsAll members entries

theorem isSaid_scalar {value : Json} {style : Style} {text : List Char}
    (words : value.words = [.scalar style text])
    (shows : ∀ start, Shows value (.ofScalar start style text)) : value.IsSaid := by
  intro tokens same
  rw [words, List.map_eq_singleton_iff] at same
  obtain ⟨⟨_, start, stop⟩, rfl, rfl⟩ := same
  exact ⟨_, _, fun _ _ => .scalar _ _ style text start stop, .scalar start style text, shows start⟩

theorem areSaid_nil : AreSaid [] := by
  intro tokens same
  rw [memberWords, List.nil_append, List.map_eq_singleton_iff] at same
  obtain ⟨⟨_, start, stop⟩, rfl, rfl⟩ := same
  exact ⟨_, _, .mappingEnd false start stop, .nil start, .nil⟩

theorem IsSaid.cons {name : String} {value : Json} {rest : List (String × Json)}
    (isSaid : value.IsSaid) (areSaid : AreSaid rest) : AreSaid ((name, value) :: rest) := by
  intro tokens same
  rw [memberWords, List.append_assoc, List.append_assoc] at same
  obtain ⟨p₁, q₁, p₂, q₂, p₃, q₃, p₄, q₄, behind, rfl, inside⟩ := cut_member same
  obtain ⟨valueTokens, others, rfl, ofValue, ofOthers⟩ := List.map_eq_append_iff.mp inside
  obtain ⟨events, node, asks, made, shows⟩ := isSaid valueTokens ofValue
  obtain ⟨more, entries, asks', made', shows'⟩ := areSaid others ofOthers
  obtain ⟨kind, kinds, begins, noEntry, noEnd⟩ := words_begin value
  obtain ⟨token, valueTokens, rfl, rfl, -⟩ := List.map_eq_cons_iff.mp (ofValue.trans begins)
  exact ⟨_, _, (asks false false).member ⟨noEntry, noEnd⟩ asks' name.toList p₁ q₁ p₂ q₂ p₃ q₃ p₄ q₄,
    .cons (.scalar p₃ .doubleQuoted name.toList) made made', .cons name p₃ shows shows'⟩

/-- An object with a member before others: the mark of an entry is all that its tokens lack. -/
theorem isSaid_object {name : String} {value : Json} {rest : List (String × Json)}
    (areSaid : AreSaid ((name, value) :: rest)) :
    (object ((name, value) :: rest)).IsSaid := by
  intro tokens same
  rw [words, List.cons_append, List.cons_append, List.cons_append, List.map_eq_cons_iff] at same
  obtain ⟨⟨_, start, stop⟩, inside, rfl, rfl, same⟩ := same
  -- With the mark put in front, the first member is like those behind it.
  have marked : (⟨.flowEntry, start, stop⟩ :: inside : List Token).map (·.kind) =
      memberWords ((name, value) :: rest) ++ [.flowMappingEnd] := by
    rw [memberWords, List.map_cons, same]
    rfl
  obtain ⟨events, entries, asks, made, shows⟩ := areSaid _ marked
  obtain ⟨token, inside, rfl, -⟩ := List.map_eq_cons_iff.mp same
  exact ⟨_, _, fun _ _ => asks.first.mapping _ _ start stop, made.mapping start,
    .object start shows⟩

theorem isSaid_empty : (object []).IsSaid := by
  intro tokens same
  rw [words, List.map_eq_cons_iff] at same
  obtain ⟨⟨_, start, stop⟩, inside, rfl, rfl, same⟩ := same
  obtain ⟨⟨_, start', stop'⟩, rfl, rfl⟩ := List.map_eq_singleton_iff.mp same
  exact ⟨_, _, fun _ _ => (Asks.mappingEnd true start' stop').mapping _ _ start stop,
    (SaysAll.nil start').mapping start, .object start .nil⟩

mutual

theorem isSaid : (value : Json) → value.IsSaid
  | flag b => isSaid_scalar (by rw [words]) (.flag b)
  | number n => isSaid_scalar (by rw [words]) (.number n)
  | text s => isSaid_scalar (by rw [words]) (.text s)
  | object [] => isSaid_empty
  | object ((_, value) :: rest) => isSaid_object ((isSaid value).cons (areSaid rest))

theorem areSaid : (members : List (String × Json)) → AreSaid members
  | [] => areSaid_nil
  | (_, value) :: rest => (isSaid value).cons (areSaid rest)

end

end Json

/-! ## Whole documents -/

/-- A character that the text of a value holds: it stands for itself, or breaks the line. -/
def isWritten (c : Char) : Bool :=
  c == '\n' || isInline c

theorem isWritten_of_isWhite {c : Char} (white : isWhite c = true) : isWritten c = true := by
  simp only [isWhite, Bool.or_eq_true, beq_iff_eq] at white
  rcases white with rfl | rfl <;> rfl

namespace Json

theorem isWritten_newLine (level : Nat) : ∀ c ∈ newLine level, isWritten c = true :=
  fun c member => isWritten_of_isWhite (isWhite_of_mem_newLine c member)

theorem isWritten_quote {text : String} (portable : ∀ c ∈ text.toList, isPortable c = true) :
    ∀ c ∈ quote text, isWritten c = true := by
  intro c member
  rw [isWritten, isInline_of_mem_quote portable c member, Bool.or_true]

theorem isWritten_of_isDigit {c : Char} (digit : c.isDigit = true) : isWritten c = true := by
  have ascii : 0x30 ≤ c.toNat ∧ c.toNat ≤ 0x39 := by
    have : c.toNat = c.val.toNat := rfl
    simp [Char.isDigit, UInt32.le_iff_toNat_le] at digit
    omega
  have portable : isPortable c = true := by
    simp only [isPortable, Bool.not_eq_true', Bool.or_eq_false_iff, Bool.and_eq_false_iff,
      decide_eq_false_iff_not, beq_eq_false_iff_ne]
    omega
  rw [isWritten, isInline_of_isPortable portable (by omega), Bool.or_true]

mutual

theorem isWritten_chars : (value : Json) → value.IsPortable → ∀ level,
    ∀ c ∈ value.chars level, isWritten c = true
  | flag b, _, _ => by
    rw [chars]
    cases b <;> exact List.all_eq_true.mp rfl
  | number n, _, _ => fun c member =>
    isWritten_of_isDigit (Text.Decimal.isDigit_of_mem_digits n c member)
  | text s, portable, _ => isWritten_quote portable
  | object [], _, _ => by
    rw [chars]
    exact List.all_eq_true.mp rfl
  | object ((name, value) :: rest), portable, level => by
    have first := isWritten_chars value portable.2.1 (level + 1)
    have others := isWritten_memberChars rest portable.2.2 (level + 1)
    rw [chars]
    simp only [List.forall_mem_append, List.forall_mem_cons]
    exact ⟨⟨⟨⟨⟨⟨⟨rfl, isWritten_newLine _⟩, isWritten_quote portable.1.1⟩, rfl, rfl,
      List.forall_mem_nil _⟩, first⟩, others⟩, isWritten_newLine _⟩, rfl, List.forall_mem_nil _⟩

theorem isWritten_memberChars : (members : List (String × Json)) → ArePortable members →
    ∀ level, ∀ c ∈ memberChars level members, isWritten c = true
  | [], _, _ => by
    rw [memberChars]
    exact List.forall_mem_nil _
  | (name, value) :: rest, portable, level => by
    have first := isWritten_chars value portable.2.1 level
    have others := isWritten_memberChars rest portable.2.2 level
    rw [memberChars]
    simp only [List.forall_mem_append, List.forall_mem_cons]
    exact ⟨⟨⟨⟨⟨rfl, isWritten_newLine _⟩, isWritten_quote portable.1.1⟩, rfl, rfl,
      List.forall_mem_nil _⟩, first⟩, others⟩

end

end Json

theorem isReadable_of_isWritten {c : Char} (written : isWritten c = true) :
    isReadable c = true := by
  simp only [isWritten, Bool.or_eq_true, beq_iff_eq] at written
  rcases written with rfl | inline_
  · rfl
  · exact (Bool.and_eq_true_iff.mp inline_).1

theorem unifyBreaks_of_isWritten {cs : List Char} (written : ∀ c ∈ cs, isWritten c = true) :
    unifyBreaks cs = cs := by
  induction cs with
  | nil => rfl
  | cons c cs ih =>
    have kept : c ≠ '\r' ∧ c ≠ '\x85' := by
      constructor <;>
      · rintro rfl
        exact absurd (written _ (List.mem_cons_self ..)) (by decide)
    rw [unifyBreaks, ih fun d member => written d (List.mem_cons_of_mem _ member)]
    · simp [kept]
    · intro rest same
      exact absurd same kept.1

/-- The text of an object that has members is a document whose root has its shape. -/
theorem document_of_object {name : String} {value : Json} {rest : List (String × Json)}
    (portable : (Json.object ((name, value) :: rest)).IsPortable) {tail : List Char}
    (white : ∀ d ∈ tail, isWhite d = true) :
    ∃ node, Shows (.object ((name, value) :: rest)) node ∧
      Document.ofText (String.ofList ((Json.object ((name, value) :: rest)).chars 0 ++ tail)) =
        ⟨node, [], true⟩ := by
  obtain ⟨tokens, read, kinds⟩ := tokens_of_object portable white
  obtain ⟨valueTokens, last, rfl, ofValue, ofLast⟩ := List.map_eq_append_iff.mp kinds
  obtain ⟨⟨_, start, stop⟩, rfl, rfl⟩ := List.map_eq_singleton_iff.mp ofLast
  obtain ⟨events, node, asks, made, shows⟩ := Json.isSaid _ valueTokens ofValue
  refine ⟨node, shows, ?_⟩
  -- No directive and no mark comes first, so all the tokens are the content.
  have content :
      Document.ofContent [] (valueTokens ++ [⟨.streamEnd, start, stop⟩]) = ⟨node, [], true⟩ := by
    have yielded := asks true false ([] ++ standardTags) [] [⟨.streamEnd, start, stop⟩]
    rw [List.append_nil, eventsFrom, List.append_nil] at yielded
    have tree := made.tree [] []
    rw [List.append_nil, place] at tree
    rw [Document.ofContent, yielded]
    show Document.ofEvents events true = _
    rw [Document.ofEvents, linkFrom_of_free made.free]
    show (⟨treeFrom [] (links events), [], true⟩ : Document) = _
    rw [tree]
  have written : ∀ c ∈ (Json.object ((name, value) :: rest)).chars 0 ++ tail,
      isWritten c = true := by
    rw [List.forall_mem_append]
    exact ⟨Json.isWritten_chars _ portable 0, fun c member =>
      isWritten_of_isWhite (white c member)⟩
  obtain ⟨⟨_, start', stop'⟩, inside, rfl, rfl, -⟩ := List.map_eq_cons_iff.mp
    (ofValue.trans (by rw [Json.words, List.cons_append, List.cons_append, List.cons_append]))
  rw [Document.ofText, String.toList_ofList, if_pos (List.all_eq_true.mpr fun c member =>
    isReadable_of_isWritten (written c member)), unifyBreaks_of_isWritten written, read]
  exact content

end ClosedLoop
