import ClosedLoop.Yaml.Event

/-!
# Documents as trees

A document is the tree of its nodes, with the nodes that its aliases stand for. A text that is not
well-formed has a document too, as far as it goes: where it breaks off, the tree has a `cut`, and the
document is not `complete`. So is one with another document behind it.

## Aliases

Aliases are numbered. An anchor takes the count of different anchor names before it as its number,
and the last node with a number is the one that aliases with that number stand for. An alias whose
name has no anchor before it breaks the document off.
-/

namespace ClosedLoop.Yaml

/-- A node of a document. -/
inductive Node where
  | scalar (start : Position) (scalar : Scalar)
  | sequence (start : Position) (items : List Node)
  | mapping (start : Position) (entries : List (Node × Node))
  /-- The node with a number among those that have anchors. -/
  | alias (number : Nat)
  /-- The content of a document without any. -/
  | nothing (start : Position)
  /-- What would have come next where the text breaks off. -/
  | cut

/-! ## Numbering -/

/-- An event with the alias in it numbered. -/
inductive LinkedEvent where
  | alias (number : Nat)
  | scalar (start : Position) (scalar : Scalar)
  | sequenceStart (start : Position)
  | mappingStart (start : Position)
  | ending

/-- The numbers of anchor names. -/
abbrev AnchorTable := List (List Char × Nat)

/-- Gives a name a number, or another one. -/
def AnchorTable.put (table : AnchorTable) (name : List Char) (number : Nat) : AnchorTable :=
  (name, number) :: table.filter (·.1 != name)

/-- The events of a document with numbers for names. -/
structure Linked where
  events : List LinkedEvent
  /-- For each anchor, in order, its number and how many events come before it. -/
  anchors : List (Nat × Nat)
  /-- Whether every alias had an anchor. -/
  complete : Bool

/-- An event without its names. -/
def linkKind (table : AnchorTable) (event : Event) : Option LinkedEvent :=
  match event.kind with
  | .alias name => (table.lookup name).map .alias
  | .scalar scalar => some (.scalar event.start scalar)
  | .sequenceStart => some (.sequenceStart event.start)
  | .mappingStart => some (.mappingStart event.start)
  | .sequenceEnd | .mappingEnd => some .ending

/-- Numbers the names in events, given those before and how many events these are. -/
def linkFrom (table : AnchorTable) (count : Nat) : List Event → Linked
  | [] => ⟨[], [], true⟩
  | event :: rest =>
    match linkKind table event with
    | none => ⟨[], [], false⟩
    | some kind =>
      match event.anchor with
      | none =>
        let linked := linkFrom table (count + 1) rest
        { linked with events := kind :: linked.events }
      | some name =>
        let linked := linkFrom (table.put name table.length) (count + 1) rest
        { linked with
          events := kind :: linked.events
          anchors := (table.length, count) :: linked.anchors }

/-! ## Trees -/

/-- A collection that has not ended, with what is in it so far, the last first. -/
inductive Frame where
  | sequence (start : Position) (items : List Node)
  | mapping (start : Position) (entries : List (Node × Node)) (key : Option Node)

namespace Frame

/-- Puts a node into the collection. -/
def put (node : Node) : Frame → Frame
  | sequence start items => sequence start (node :: items)
  | mapping start entries none => mapping start entries (some node)
  | mapping start entries (some key) => mapping start ((key, node) :: entries) none

/-- The collection at its end. -/
def close : Frame → Node
  | sequence start items => .sequence start items.reverse
  | mapping start entries none => .mapping start entries.reverse
  | mapping start entries (some key) => .mapping start ((key, .cut) :: entries).reverse

/-- The collection where the text breaks off; whatever is in it, the last thing is a cut. -/
def breakOff : Frame → Node
  | sequence start items => .sequence start (.cut :: items).reverse
  | mapping start entries none => .mapping start ((.cut, .cut) :: entries).reverse
  | mapping start entries (some key) => .mapping start ((.cut, .cut) :: (key, .cut) :: entries).reverse

end Frame

/-- The tree around a node where the text breaks off behind it. -/
def breakOffAll (node : Node) : List Frame → Node
  | [] => node
  | frame :: outer => breakOffAll (frame.put node).breakOff outer

mutual

/-- The node that begins with the events, inside of collections that have not ended. -/
def treeFrom (frames : List Frame) : List LinkedEvent → Node
  | [] =>
    match frames with
    | [] => .cut
    | frame :: outer => breakOffAll frame.breakOff outer
  | .alias number :: rest => place (.alias number) frames rest
  | .scalar start scalar :: rest => place (.scalar start scalar) frames rest
  | .sequenceStart start :: rest => treeFrom (.sequence start [] :: frames) rest
  | .mappingStart start :: rest => treeFrom (.mapping start [] none :: frames) rest
  | .ending :: rest =>
    match frames with
    | [] => .cut
    | frame :: outer => place frame.close outer rest
termination_by events => (events.length, 1)

/-- Goes on behind a whole node: the tree is done unless there is a collection around it. -/
def place (node : Node) (frames : List Frame) (rest : List LinkedEvent) : Node :=
  match frames with
  | [] => node
  | frame :: outer => treeFrom (frame.put node :: outer) rest
termination_by (rest.length, 2)

end

/-! ## Documents -/

/-- A document: its root, the nodes of its anchors, and whether that is all there is. -/
structure Document where
  root : Node
  /-- Numbers with the nodes that aliases with them stand for, the last ones first. -/
  anchored : List (Nat × Node) := []
  complete : Bool

namespace Document

/-- The node itself, or the one that it stands for. -/
def follow (document : Document) (node : Node) : Node :=
  match node with
  | .alias number => (document.anchored.lookup number).getD .cut
  | _ => node

/-- The document that events describe; `complete` says whether they are all of a well-formed text. -/
def ofEvents (events : List Event) (complete : Bool) : Document :=
  let linked := linkFrom [] 0 events
  { root := treeFrom [] linked.events
    anchored := (linked.anchors.map fun (number, count) =>
      (number, treeFrom [] (linked.events.drop count))).reverse
    complete := complete && linked.complete }

/-- What the directives in front of a document say: the tag handles; `none` if they contradict. -/
def directivesFrom (table : TagTable) (versioned : Bool) :
    List Token → Option (TagTable × List Token)
  | ⟨.versionDirective major minor, _, _⟩ :: rest =>
    if versioned || major != 1 || !(minor == 1 || minor == 2) then none
    else directivesFrom table true rest
  | ⟨.tagDirective handle lead, _, _⟩ :: rest =>
    if (table.lookup handle).isSome then none
    else directivesFrom (table ++ [(handle, lead)]) versioned rest
  | tokens => some (table, tokens)

/-- Whether nothing but marks of ends and the end itself is left. -/
def endsHere : List Token → Bool
  | [⟨.streamEnd, _, _⟩] => true
  | ⟨.documentEnd, _, _⟩ :: rest => endsHere rest
  | _ => false

/-- The document whose content begins with the tokens. -/
def ofContent (table : TagTable) (tokens : List Token) : Document :=
  let (events, behind) := eventsFrom (table ++ standardTags) [.node true false] tokens
  match behind with
  | some rest => ofEvents events (endsHere rest)
  | none => ofEvents events false

/-- A document that breaks off before its content. -/
def unreadable : Document := ⟨.cut, [], false⟩

/-- The document behind an explicit beginning, which may have no content. -/
def ofExplicit (table : TagTable) (tokens : List Token) : Document :=
  match tokens with
  | [] => unreadable
  | token :: _ =>
    match token.kind with
    | .versionDirective _ _ | .tagDirective _ _ | .documentStart | .documentEnd | .streamEnd =>
      ofEvents [emptyNode token.start] (endsHere tokens)
    | _ => ofContent table tokens

/-- The first document of a sequence of tokens. -/
def ofTokens (tokens : List Token) : Document :=
  match tokens with
  | [] => unreadable
  | token :: rest =>
    match token.kind with
    | .streamEnd => ⟨.nothing token.start, [], true⟩
    | .documentStart => ofExplicit [] rest
    | .versionDirective _ _ | .tagDirective _ _ =>
      match directivesFrom [] false tokens with
      | some (table, ⟨.documentStart, _, _⟩ :: rest) => ofExplicit table rest
      | _ => unreadable
    | _ => ofContent [] tokens

/-- The document of a text; one with a character that may not stand in a document has none. -/
def ofText (text : String) : Document :=
  let chars := text.toList
  if chars.all isReadable then ofTokens (TokenStream.ofText (unifyBreaks chars)).tokens
  else unreadable

end Document

end ClosedLoop.Yaml
