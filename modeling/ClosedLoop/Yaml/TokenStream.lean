import ClosedLoop.Yaml.Scalar.Block
import ClosedLoop.Yaml.Scalar.Plain
import ClosedLoop.Yaml.Scalar.Quoted
import ClosedLoop.Yaml.Tag
import ClosedLoop.Yaml.Token

/-!
# The tokens of a document

Reading a document from left to right yields its tokens, with the structure that indentation says
made into tokens of its own.

## Simple keys

A key of a mapping needs no mark in front of it. So where a node may be a key, its place is kept as
a `PendingKey` until a colon comes, and only then the tokens for the key, and for the mapping if it
begins there, are put in front of the node. A key stands on one line and has at most 1024
bytes. One pending key is kept for the block structure and one for each open flow collection.

## Documents that are not well-formed

Tokens behind a pending key are not yet sure. Where a document turns out not to be well-formed, the
tokens that were sure before the last attempt to read on are still its tokens, and the document is
known to be cut off behind them.

## Termination

* `tokensFrom`: every token but the last takes a character, so `fuel` is one more than those are
-/

namespace ClosedLoop.Yaml

/-- A place at which a node began that may turn out to be a key. -/
structure PendingKey where
  /-- How many tokens come before the node. -/
  number : Nat
  /-- Whether the node cannot be anything but a key. -/
  required : Bool
  start : Position

/-- How many bytes a key may have. -/
def maxKeyLength : Nat := 1024

/-- A document that has been read up to a place. -/
structure Scan where
  here : Cursor
  tokens : Array Token := #[]
  /-- The column of the innermost block collection. -/
  indent : Option Nat := none
  /-- The columns of the collections around it, the inner ones first. -/
  outerIndents : List (Option Nat) := []
  /-- The pending key of the innermost collection. -/
  pending : Option PendingKey := none
  /-- Those of the collections around it, for each open flow collection one. -/
  outerPending : List (Option PendingKey) := []
  /-- Whether a key may begin here. -/
  keyAllowed : Bool := true
  /-- Whether the end has been reached. -/
  ended : Bool := false

namespace Scan

/-- Inside a flow collection. -/
def inFlow (s : Scan) : Bool :=
  !s.outerPending.isEmpty

def column (s : Scan) : Nat :=
  s.here.pos.column

/-- Puts a token behind the others. -/
def push (s : Scan) (kind : TokenKind) (start stop : Position) : Scan :=
  { s with tokens := s.tokens.push ⟨kind, start, stop⟩ }

/-- Takes `n` characters as a token. -/
def take (s : Scan) (n : Nat) (kind : TokenKind) : Scan :=
  let here := s.here.advanceBy n
  { s.push kind s.here.pos here.pos with here }

/-! ## Pending keys -/

/-- How many tokens are sure. -/
def sure (s : Scan) : Nat :=
  (s.pending :: s.outerPending).foldl (fun least key =>
    match key with
    | some key => min least key.number
    | none => least) s.tokens.size

/-- A pending key that the document has left behind: on another line, or too far away. -/
def isStale (s : Scan) (key : PendingKey) : Bool :=
  key.start.line < s.here.pos.line || key.start.offset + maxKeyLength < s.here.pos.offset

/-- Drops one pending key if it is stale; `none` if it is required. -/
def dropStaleKey (s : Scan) : Option PendingKey → Option (Option PendingKey)
  | some key =>
    if s.isStale key then (if key.required then none else some none) else some (some key)
  | none => some none

/-- Drops all pending keys that are stale; `none` if one is required. -/
def dropStale (s : Scan) : Option Scan :=
  match s.dropStaleKey s.pending, s.outerPending.mapM s.dropStaleKey with
  | some pending, some outerPending => some { s with pending, outerPending }
  | _, _ => none

/-- Gives up the pending key; `none` if it is required. -/
def forgetKey (s : Scan) : Option Scan :=
  match s.pending with
  | some key => if key.required then none else some { s with pending := none }
  | none => some s

/-- Keeps this place as one where a key may begin, if it may. -/
def rememberKey (s : Scan) : Option Scan :=
  if s.keyAllowed then
    s.forgetKey.map fun s =>
      { s with
        pending := some ⟨s.tokens.size, !s.inFlow && s.indent == some s.column, s.here.pos⟩ }
  else some s

/-! ## Indentation -/

/-- Whether a column is further in than that of a block collection. -/
def isInside (column : Nat) : Option Nat → Bool
  | some outer => outer < column
  | none => true

/-- Begins a block collection at a column if it is further in, with its token before number `at?`. -/
def openBlock (s : Scan) (column : Nat) (at? : Option Nat) (kind : TokenKind) (start : Position) :
    Scan :=
  if s.inFlow || !isInside column s.indent then s
  else
    let token : Token := ⟨kind, start, start⟩
    { s with
      indent := some column
      outerIndents := s.indent :: s.outerIndents
      tokens :=
        match at? with
        | some number => s.tokens.insertIdxIfInBounds number token
        | none => s.tokens.push token }

/-- Ends the collections that a column is not inside of, given those around them. -/
def closeFrom (column : Option Nat) (s : Scan) : List (Option Nat) → Scan
  | [] => { s with outerIndents := [] }
  | outer :: more =>
    let closes : Bool :=
      match s.indent, column with
      | some indent, some column => decide (column < indent)
      | some _, none => true
      | none, _ => false
    if closes then
      closeFrom column { s.push .blockEnd s.here.pos s.here.pos with indent := outer } more
    else { s with outerIndents := outer :: more }

/-- Ends the block collections that a column is not inside of; `none` ends all. -/
def closeBlocks (s : Scan) (column : Option Nat) : Scan :=
  if s.inFlow then s else closeFrom column s s.outerIndents

/-! ## Single tokens -/

/-- The end of the document, on a line of its own. -/
def takeEnd (s : Scan) : Option Scan :=
  let pos := s.here.pos
  let pos := if pos.column = 0 then pos else { pos with line := pos.line + 1, column := 0 }
  let s := { s with here := { s.here with pos } }.closeBlocks none
  s.forgetKey.map fun s =>
    { s.push .streamEnd pos pos with keyAllowed := false, ended := true }

def takeDirective (s : Scan) : Option Scan :=
  (s.closeBlocks none).forgetKey.bind fun s =>
    match directive? s.here with
    | some (directive, behind) =>
      let kind := match directive with
        | .version major minor => TokenKind.versionDirective major minor
        | .tag handle lead => TokenKind.tagDirective handle lead
      some { s.push kind s.here.pos behind.pos with here := behind, keyAllowed := false }
    | none => none

/-- A mark of a document, three characters long. -/
def takeDocumentMark (s : Scan) (kind : TokenKind) : Option Scan :=
  (s.closeBlocks none).forgetKey.map fun s => { s.take 3 kind with keyAllowed := false }

def takeFlowStart (s : Scan) (kind : TokenKind) : Option Scan :=
  s.rememberKey.map fun s =>
    { s.take 1 kind with
      pending := none
      outerPending := s.pending :: s.outerPending
      keyAllowed := true }

def takeFlowEnd (s : Scan) (kind : TokenKind) : Option Scan :=
  s.forgetKey.map fun s =>
    let s := { s.take 1 kind with keyAllowed := false }
    match s.outerPending with
    | [] => s
    | pending :: outerPending => { s with pending, outerPending }

def takeFlowEntry (s : Scan) : Option Scan :=
  s.forgetKey.map fun s => { s.take 1 .flowEntry with keyAllowed := true }

/-- A mark that can begin a block collection; `none` where one cannot begin. -/
def openBlockHere (s : Scan) (kind : TokenKind) : Option Scan :=
  if s.inFlow then some s
  else if s.keyAllowed then some (s.openBlock s.column none kind s.here.pos)
  else none

def takeBlockEntry (s : Scan) : Option Scan :=
  (s.openBlockHere .blockSequenceStart).bind fun s =>
    s.forgetKey.map fun s => { s.take 1 .blockEntry with keyAllowed := true }

def takeKey (s : Scan) : Option Scan :=
  (s.openBlockHere .blockMappingStart).bind fun s =>
    s.forgetKey.map fun s => { s.take 1 .key with keyAllowed := !s.inFlow }

/-- The mark between a key and its value: makes the pending key one. -/
def takeValue (s : Scan) : Option Scan :=
  match s.pending with
  | some key =>
    let s := { s with
      tokens := s.tokens.insertIdxIfInBounds key.number ⟨.key, key.start, key.start⟩
      pending := none }
    let s := s.openBlock key.start.column (some key.number) .blockMappingStart key.start
    some { s.take 1 .value with keyAllowed := false }
  | none =>
    (s.openBlockHere .blockMappingStart).map fun s =>
      { s.take 1 .value with keyAllowed := !s.inFlow }

/-- A token that goes from here to the place behind it. -/
def takeTo (s : Scan) (kind : TokenKind) (behind : Cursor) : Scan :=
  { s.push kind s.here.pos behind.pos with here := behind }

def takeName (s : Scan) (kind : List Char → TokenKind) : Option Scan :=
  s.rememberKey.bind fun s =>
    (name? s.here).map fun (name, behind) =>
      { s.takeTo (kind name) behind with keyAllowed := false }

def takeTag (s : Scan) : Option Scan :=
  s.rememberKey.bind fun s =>
    (tag? s.inFlow s.here).map fun ((handle, suffix), behind) =>
      { s.takeTo (.tag handle suffix) behind with keyAllowed := false }

def takeBlockScalar (s : Scan) (folded : Bool) : Option Scan :=
  s.forgetKey.bind fun s =>
    (Block.read folded s.indent s.here).map fun (text, behind) =>
      { s.takeTo (.scalar (if folded then .folded else .literal) text) behind with
        keyAllowed := true }

def takeQuoted (s : Scan) (isDouble : Bool) : Option Scan :=
  s.rememberKey.bind fun s =>
    (Quoted.read isDouble s.here).map fun (text, behind) =>
      { s.takeTo (.scalar (if isDouble then .doubleQuoted else .singleQuoted) text) behind with
        keyAllowed := false }

def takePlain (s : Scan) : Option Scan :=
  s.rememberKey.bind fun s =>
    let column := match s.indent with
      | some indent => indent + 1
      | none => 0
    (Plain.read s.inFlow column s.here).map fun plain =>
      { s.push (.scalar .plain plain.text) s.here.pos plain.stop with
        here := plain.behind
        keyAllowed := plain.brokenOff }

/-! ## Reading on -/

/-- Skips blanks, comments and breaks up to the next token. -/
def skipFrom (inFlow : Bool) :
    (keyAllowed inComment : Bool) → List Char → Position → Bool × Cursor
  | keyAllowed, _, [], pos => (keyAllowed, ⟨[], pos⟩)
  | keyAllowed, inComment, c :: rest, pos =>
    if isBreak c then skipFrom inFlow (keyAllowed || !inFlow) false rest (pos.next c)
    else if inComment || c == ' ' || (c == '\t' && (inFlow || !keyAllowed)) ||
        (c == '\ufeff' && pos.column == 0) then
      skipFrom inFlow keyAllowed inComment rest (pos.next c)
    else if c == '#' then skipFrom inFlow keyAllowed true rest (pos.next c)
    else (keyAllowed, ⟨c :: rest, pos⟩)

/-- Skips to the next token. -/
def skipGap (s : Scan) : Scan :=
  let (keyAllowed, here) := skipFrom s.inFlow s.keyAllowed false s.here.rest s.here.pos
  { s with keyAllowed, here }

/-- Characters with which no plain scalar begins, unless it is said otherwise. -/
def isMark (c : Char) : Bool :=
  "-?:,[]\x7b\x7d#&*!|>'\"%@\x60".toList.contains c

/-- Whether a plain scalar begins with a character, given those behind it. -/
def beginsPlain (inFlow : Bool) (c : Char) (rest : List Char) : Bool :=
  !(isMark c || isBlankChar c || isBreak c) || (c == '-' && !rest.head?.any isBlankChar) ||
    (!inFlow && (c == '?' || c == ':') && !atGap rest)

/-- The next token, which begins right here. -/
def takeNext (s : Scan) : Option Scan :=
  match s.here.rest with
  | [] => s.takeEnd
  | c :: rest =>
    if s.column == 0 && c == '%' then s.takeDirective
    else if s.column == 0 && atDocumentStart (c :: rest) then s.takeDocumentMark .documentStart
    else if s.column == 0 && atDocumentEnd (c :: rest) then s.takeDocumentMark .documentEnd
    else if c == '[' then s.takeFlowStart .flowSequenceStart
    else if c == '{' then s.takeFlowStart .flowMappingStart
    else if c == ']' then s.takeFlowEnd .flowSequenceEnd
    else if c == '}' then s.takeFlowEnd .flowMappingEnd
    else if c == ',' then s.takeFlowEntry
    else if c == '-' && atGap rest then s.takeBlockEntry
    else if c == '?' && (s.inFlow || atGap rest) then s.takeKey
    else if c == ':' && (s.inFlow || atGap rest) then s.takeValue
    else if c == '*' then s.takeName .alias
    else if c == '&' then s.takeName .anchor
    else if c == '!' then s.takeTag
    else if c == '|' && !s.inFlow then s.takeBlockScalar false
    else if c == '>' && !s.inFlow then s.takeBlockScalar true
    else if c == '\'' then s.takeQuoted false
    else if c == '"' then s.takeQuoted true
    else if beginsPlain s.inFlow c rest then s.takePlain
    else none

/-- Reads on by one token, and by those that indentation puts in front of it. -/
def readOn (s : Scan) : Option Scan :=
  s.skipGap.dropStale.bind fun s => (s.closeBlocks (some s.column)).takeNext

end Scan

/-- The tokens of a document, and whether it is well-formed up to its end. -/
structure TokenStream where
  tokens : List Token
  complete : Bool

/-- Reads on to the end. -/
def tokensFrom : (fuel : Nat) → Scan → TokenStream
  | 0, s => ⟨s.tokens.toList.take s.sure, false⟩
  | fuel + 1, s =>
    match s.readOn.bind Scan.dropStale with
    | some next => if next.ended then ⟨next.tokens.toList, true⟩ else tokensFrom fuel next
    | none => ⟨s.tokens.toList.take s.sure, false⟩

/-- The tokens of a text whose breaks are unified. -/
def TokenStream.ofText (text : List Char) : TokenStream :=
  tokensFrom (text.length + 1) { here := ⟨text, {}⟩ }

end ClosedLoop.Yaml
