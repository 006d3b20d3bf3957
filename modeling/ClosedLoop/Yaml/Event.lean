import ClosedLoop.Yaml.TokenStream

/-!
# Events of a document

A document as the sequence of its nodes in the order in which they are written: scalars and
references as they stand, collections by their beginning and end. Missing nodes are made empty
scalars.

## Mechanism

What is expected next is a list of goals, the next one first. One step looks at the next tokens,
yields an event or none, and puts further goals in place of the first one.

## Termination

* `eventsFrom`: a step takes a token, or the goals that take its place weigh less than it; a token
  outweighs the goals that any step adds
-/

namespace ClosedLoop.Yaml

/-- A scalar: its tag if it has one, how it is written, and its text. -/
structure Scalar where
  tag : Option (List Char) := none
  style : Style := .plain
  text : List Char := []
  deriving DecidableEq, Repr

/-- What an event says; names of anchors and aliases are kept as written. -/
inductive EventKind where
  | alias (name : List Char)
  | scalar (scalar : Scalar)
  | sequenceStart
  | sequenceEnd
  | mappingStart
  | mappingEnd
  deriving DecidableEq, Repr

/-- An event, the place of the node, and its anchor. -/
structure Event where
  kind : EventKind
  start : Position
  anchor : Option (List Char) := none
  deriving DecidableEq, Repr

/-- What tag handles stand for. -/
abbrev TagTable := List (List Char × List Char)

/-- The handles that need no directive. -/
def standardTags : TagTable :=
  [(['!'], ['!']), (['!', '!'], "tag:yaml.org,2002:".toList)]

/-- What is expected. -/
inductive Goal where
  /-- A node, in block structure or in a flow; a sequence of a value may be indented like its key. -/
  | node (inBlock flushSequence : Bool)
  | blockEntry
  /-- An entry of a sequence that is indented like the key it belongs to. -/
  | flushEntry
  | blockKey
  | blockValue
  /-- An entry of a flow sequence, or its end. -/
  | flowEntry (first : Bool)
  /-- The parts of a mapping of one pair that stands as an entry of a flow sequence. -/
  | pairKey
  | pairValue
  | pairEnd
  | flowKey (first : Bool)
  | flowValue
  /-- The value of a key that has no mark. -/
  | flowNoValue

namespace Goal

/-- How much a goal weighs against those that may take its place. -/
def weight : Goal → Nat
  | flushEntry | blockEntry | blockKey => 1
  | node _ _ => 2
  | blockValue | pairEnd | flowValue | flowNoValue => 2
  | flowEntry false | flowKey false => 1
  | pairValue => 3
  | pairKey => 6
  | flowEntry true | flowKey true => 5

end Goal

/-- What a step yields: an event, the goals in place of the first one, and the tokens left. -/
structure Step where
  event : Option Event := none
  goals : List Goal := []
  rest : List Token

/-- A missing node. -/
def emptyNode (pos : Position) : Event :=
  ⟨.scalar {}, pos, none⟩

/-- The name that a tag stands for; `none` for an unknown handle. -/
def resolveTag? (table : TagTable) (handle suffix : List Char) : Option (List Char) :=
  if handle.isEmpty then some suffix else (table.lookup handle).map (· ++ suffix)

/-- The properties in front of a node. -/
structure Properties where
  start : Position
  anchor : Option (List Char) := none
  tag : Option (List Char × List Char) := none
  rest : List Token

/-- Reads the properties in front of a node, in either order. -/
def properties : List Token → Option Properties
  | ⟨.anchor name, start, _⟩ :: ⟨.tag handle suffix, _, _⟩ :: rest =>
    some ⟨start, some name, some (handle, suffix), rest⟩
  | ⟨.tag handle suffix, start, _⟩ :: ⟨.anchor name, _, _⟩ :: rest =>
    some ⟨start, some name, some (handle, suffix), rest⟩
  | ⟨.anchor name, start, _⟩ :: rest => some ⟨start, some name, none, rest⟩
  | ⟨.tag handle suffix, start, _⟩ :: rest => some ⟨start, none, some (handle, suffix), rest⟩
  | token :: rest => some ⟨token.start, none, none, token :: rest⟩
  | [] => none

/-- A scalar with the tag in front of it; the tag `!` leaves it without one. -/
def taggedScalar (tag : Option (List Char)) (style : Style) (text : List Char) : Scalar :=
  ⟨if tag == some ['!'] then none else tag, style, text⟩

/-- The step for a node. -/
def nodeStep (table : TagTable) (inBlock flushSequence : Bool) (tokens : List Token) : Option Step :=
  match tokens with
  | ⟨.alias name, start, _⟩ :: rest => some { event := some ⟨.alias name, start, none⟩, rest }
  | _ =>
    match properties tokens with
    | none => none
    | some ⟨start, anchor, parts, rest⟩ =>
      let tag? : Option (Option (List Char)) :=
        match parts with
        | some (handle, suffix) => (resolveTag? table handle suffix).map some
        | none => some none
      match tag?, rest with
      | none, _ => none
      | some tag, ⟨.scalar style text, _, _⟩ :: rest =>
        some { event := some ⟨.scalar (taggedScalar tag style text), start, anchor⟩, rest }
      | some _, ⟨.flowSequenceStart, _, _⟩ :: rest =>
        some { event := some ⟨.sequenceStart, start, anchor⟩, goals := [.flowEntry true], rest }
      | some _, ⟨.flowMappingStart, _, _⟩ :: rest =>
        some { event := some ⟨.mappingStart, start, anchor⟩, goals := [.flowKey true], rest }
      | some tag, token :: rest =>
        if flushSequence && token.kind == .blockEntry then
          some {
            event := some ⟨.sequenceStart, start, anchor⟩
            goals := [.flushEntry]
            rest := token :: rest }
        else if inBlock && token.kind == .blockSequenceStart then
          some { event := some ⟨.sequenceStart, start, anchor⟩, goals := [.blockEntry], rest }
        else if inBlock && token.kind == .blockMappingStart then
          some { event := some ⟨.mappingStart, start, anchor⟩, goals := [.blockKey], rest }
        else if anchor.isSome || parts.isSome then
          some { event := some ⟨.scalar { tag }, start, anchor⟩, rest := token :: rest }
        else none
      | some _, [] => none

/-- The event at the end of a collection. -/
def endEvent (kind : EventKind) (start : Position) : Option Event :=
  some ⟨kind, start, none⟩

/--
The steps for a node that may be missing: it is where the next token is one of those that `ends`
tells, and an empty scalar at `pos` stands for it.
-/
def optionalNode (ends : TokenKind → Bool) (pos : Position) (node behind : Goal)
    (rest : List Token) : Option Step :=
  match rest with
  | [] => none
  | token :: _ =>
    if ends token.kind then some { event := some (emptyNode pos), goals := [behind], rest }
    else some { goals := [node, behind], rest }

/-- The step for the goals of block collections. -/
def blockStep (goal : Goal) (token : Token) (rest : List Token) : Option Step :=
  match goal, token.kind with
  | .blockEntry, .blockEntry =>
    optionalNode (fun k => k == .blockEntry || k == .blockEnd) token.stop (.node true false)
      .blockEntry rest
  | .blockEntry, .blockEnd => some { event := endEvent .sequenceEnd token.start, rest }
  | .flushEntry, .blockEntry =>
    optionalNode (fun k => k == .blockEntry || k == .key || k == .value || k == .blockEnd)
      token.stop (.node true false) .flushEntry rest
  | .flushEntry, _ => some { event := endEvent .sequenceEnd token.start, rest := token :: rest }
  | .blockKey, .key =>
    optionalNode (fun k => k == .key || k == .value || k == .blockEnd) token.stop (.node true true)
      .blockValue rest
  | .blockKey, .blockEnd => some { event := endEvent .mappingEnd token.start, rest }
  | .blockValue, .value =>
    optionalNode (fun k => k == .key || k == .value || k == .blockEnd) token.stop (.node true true)
      .blockKey rest
  | .blockValue, _ =>
    some { event := some (emptyNode token.start), goals := [.blockKey], rest := token :: rest }
  | _, _ => none

/-- The step for an entry of a flow sequence that has not ended. -/
def flowEntryStep (tokens : List Token) : Option Step :=
  match tokens with
  | ⟨.key, start, _⟩ :: rest =>
    some { event := some ⟨.mappingStart, start, none⟩, goals := [.pairKey], rest }
  | ⟨.flowSequenceEnd, start, _⟩ :: rest => some { event := endEvent .sequenceEnd start, rest }
  | _ :: _ => some { goals := [.node false false, .flowEntry false], rest := tokens }
  | [] => none

/-- The step for a key of a flow mapping that has not ended. -/
def flowKeyStep (tokens : List Token) : Option Step :=
  match tokens with
  | ⟨.key, _, _⟩ :: rest =>
    match rest with
    | [] => none
    | token :: _ =>
      if token.kind == .value || token.kind == .flowEntry || token.kind == .flowMappingEnd then
        some { event := some (emptyNode token.start), goals := [.flowValue], rest }
      else some { goals := [.node false false, .flowValue], rest }
  | ⟨.flowMappingEnd, start, _⟩ :: rest => some { event := endEvent .mappingEnd start, rest }
  | _ :: _ => some { goals := [.node false false, .flowNoValue], rest := tokens }
  | [] => none

/-- The step for a value behind its mark, or for a missing one. -/
def flowValueStep (last : TokenKind) (behind : Goal) (token : Token) (rest : List Token) :
    Option Step :=
  if token.kind == .value then
    match rest with
    | [] => none
    | next :: _ =>
      if next.kind == .flowEntry || next.kind == last then
        some { event := some (emptyNode next.start), goals := [behind], rest }
      else some { goals := [.node false false, behind], rest }
  else some { event := some (emptyNode token.start), goals := [behind], rest := token :: rest }

/-- One step for the first goal. -/
def step? (table : TagTable) (goal : Goal) (tokens : List Token) : Option Step :=
  match tokens with
  | [] => none
  | token :: rest =>
    match goal with
    | .node inBlock flushSequence => nodeStep table inBlock flushSequence tokens
    | .flowEntry true => flowEntryStep tokens
    | .flowEntry false =>
      match token.kind with
      | .flowSequenceEnd => some { event := endEvent .sequenceEnd token.start, rest }
      | .flowEntry => flowEntryStep rest
      | _ => none
    | .flowKey true => flowKeyStep tokens
    | .flowKey false =>
      match token.kind with
      | .flowMappingEnd => some { event := endEvent .mappingEnd token.start, rest }
      | .flowEntry => flowKeyStep rest
      | _ => none
    | .pairKey =>
      if token.kind == .value || token.kind == .flowEntry || token.kind == .flowSequenceEnd then
        some { event := some (emptyNode token.stop), goals := [.pairValue], rest }
      else some { goals := [.node false false, .pairValue], rest := tokens }
    | .pairValue => flowValueStep .flowSequenceEnd .pairEnd token rest
    | .pairEnd =>
      some { event := endEvent .mappingEnd token.start, goals := [.flowEntry false], rest := tokens }
    | .flowValue => flowValueStep .flowMappingEnd (.flowKey false) token rest
    | .flowNoValue =>
      some { event := some (emptyNode token.start), goals := [.flowKey false], rest := tokens }
    | _ => blockStep goal token rest

/-! ## Termination -/

/-- The weight of all goals. -/
def totalWeight : List Goal → Nat
  | [] => 0
  | goal :: more => goal.weight + totalWeight more

theorem totalWeight_append (a b : List Goal) :
    totalWeight (a ++ b) = totalWeight a + totalWeight b := by
  induction a with
  | nil => simp [totalWeight]
  | cons goal more ih => simp [totalWeight, ih, Nat.add_assoc]

/-- The weight of goals and tokens together. -/
def load (goals : List Goal) (tokens : List Token) : Nat :=
  totalWeight goals + 10 * tokens.length

theorem properties_length {tokens : List Token} {p : Properties} (h : properties tokens = some p) :
    p.rest.length ≤ tokens.length := by
  unfold properties at h
  split at h
  all_goals cases h
  all_goals simp
  all_goals omega

theorem nodeStep_load {table : TagTable} {inBlock flushSequence : Bool} {tokens : List Token}
    {s : Step} (h : nodeStep table inBlock flushSequence tokens = some s) :
    load s.goals s.rest < 2 + 10 * tokens.length := by
  unfold nodeStep at h
  split at h
  · cases Option.some.inj h
    simp [load, totalWeight]
    omega
  · split at h
    · cases h
    · rename_i found
      have shorter := properties_length found
      simp only at h
      repeat' split at h
      all_goals cases h
      all_goals
        simp [load, totalWeight, Goal.weight] at shorter ⊢
        omega

theorem optionalNode_load {ends : TokenKind → Bool} {pos : Position} {node behind : Goal}
    {rest : List Token} {s : Step} (h : optionalNode ends pos node behind rest = some s) :
    load s.goals s.rest ≤ node.weight + behind.weight + 10 * rest.length := by
  unfold optionalNode at h
  repeat' split at h
  all_goals cases h
  all_goals
    simp [load, totalWeight]
    try omega

theorem blockStep_load {goal : Goal} {token : Token} {rest : List Token} {s : Step}
    (h : blockStep goal token rest = some s) :
    load s.goals s.rest < goal.weight + 10 * (rest.length + 1) := by
  unfold blockStep at h
  split at h
  case h_1 | h_3 | h_5 | h_7 =>
    have := optionalNode_load h
    simp [Goal.weight] at this ⊢
    omega
  all_goals cases h
  all_goals
    simp [load, totalWeight, Goal.weight]
    try omega

theorem flowEntryStep_load {tokens : List Token} {s : Step} (h : flowEntryStep tokens = some s) :
    load s.goals s.rest < 5 + 10 * tokens.length := by
  unfold flowEntryStep at h
  split at h
  all_goals cases h
  all_goals
    simp [load, totalWeight, Goal.weight]
    try omega

theorem flowKeyStep_load {tokens : List Token} {s : Step} (h : flowKeyStep tokens = some s) :
    load s.goals s.rest < 5 + 10 * tokens.length := by
  unfold flowKeyStep at h
  repeat' split at h
  all_goals cases h
  all_goals
    simp [load, totalWeight, Goal.weight]
    try omega

theorem flowValueStep_load {last : TokenKind} {behind : Goal} {token : Token} {rest : List Token}
    {s : Step} (h : flowValueStep last behind token rest = some s) :
    load s.goals s.rest ≤ behind.weight + 10 * (rest.length + 1) := by
  unfold flowValueStep at h
  repeat' split at h
  all_goals cases h
  all_goals
    simp [load, totalWeight, Goal.weight]
    try omega

/-- A step makes what is left to do lighter. -/
theorem step?_load {table : TagTable} {goal : Goal} {tokens : List Token} {s : Step}
    (h : step? table goal tokens = some s) :
    load s.goals s.rest < goal.weight + 10 * tokens.length := by
  unfold step? at h
  split at h
  · cases h
  · rename_i token rest
    split at h
    · exact nodeStep_load h
    · exact flowEntryStep_load h
    · split at h
      · cases Option.some.inj h
        simp [load, totalWeight, Goal.weight]
        omega
      · have := flowEntryStep_load h
        simp [Goal.weight]
        omega
      · cases h
    · exact flowKeyStep_load h
    · split at h
      · cases Option.some.inj h
        simp [load, totalWeight, Goal.weight]
        omega
      · have := flowKeyStep_load h
        simp [Goal.weight]
        omega
      · cases h
    · split at h
      all_goals
        cases Option.some.inj h
        simp [load, totalWeight, Goal.weight]
      omega
    · have := flowValueStep_load h
      simp [Goal.weight] at this ⊢
      omega
    · cases Option.some.inj h
      simp [load, totalWeight, Goal.weight]
    · have := flowValueStep_load h
      simp [Goal.weight] at this ⊢
      omega
    · cases Option.some.inj h
      simp [load, totalWeight, Goal.weight]
    · simpa using blockStep_load h

/-! ## All events -/

/--
The events that the goals ask for, and the tokens behind them; `none` where the tokens do not say
what is asked for, or end.
-/
def eventsFrom (table : TagTable) (goals : List Goal) (tokens : List Token) :
    List Event × Option (List Token) :=
  match goals with
  | [] => ([], some tokens)
  | goal :: more =>
    match _found : step? table goal tokens with
    | none => ([], none)
    | some step =>
      let (events, behind) := eventsFrom table (step.goals ++ more) step.rest
      (step.event.toList ++ events, behind)
termination_by load goals tokens
decreasing_by
  have := step?_load _found
  simp only [load, totalWeight_append, totalWeight] at this ⊢
  omega

end ClosedLoop.Yaml
