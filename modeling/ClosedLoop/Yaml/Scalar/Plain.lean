import ClosedLoop.Yaml.Gap

/-!
# Plain scalars

A plain scalar is written without marks of its own. It ends before a colon at a gap, before a `#`
behind a gap, before a line that is not indented far enough, before a mark of a document, and in a
flow collection before the marks of the collection. The white space behind it belongs to nothing.
-/

namespace ClosedLoop.Yaml

/-- A plain scalar that has been read. -/
structure Plain where
  text : List Char
  stop : Position
  /-- Whether a break stands behind it. -/
  brokenOff : Bool
  behind : Cursor

namespace Plain

/-- The marks of flow collections. -/
def isFlowMark (c : Char) : Bool :=
  c == ',' || c == '[' || c == ']' || c == '{' || c == '}'

/-- Whether a colon goes on with a mark for which it cannot be told apart in a flow collection. -/
def atMisplacedMark : List Char → Bool
  | c :: _ => isFlowMark c || c == '?'
  | [] => false

/--
Reads on behind `text` (the last character first) and a gap. `column` is the column that further
lines reach at least. `none` is a tab that takes the place of indentation, or a misplaced colon.
-/
def readFrom (inFlow : Bool) (column : Nat) (text : List Char) (stop : Position) :
    Gap → List Char → Position → Option Plain
  | gap, [], pos => some ⟨text.reverse, stop, gap.isAcross, ⟨[], pos⟩⟩
  | gap, c :: rest, pos =>
    if isBlankChar c || isBreak c then
      if c == '\t' && gap.isAcross && pos.column < column then none
      else readFrom inFlow column text stop (gap.add c) rest (pos.next c)
    else if !gap.isNone && ((!inFlow && pos.column < column) || c == '#' ||
        (pos.column == 0 && (atDocumentStart (c :: rest) || atDocumentEnd (c :: rest)))) then
      some ⟨text.reverse, stop, gap.isAcross, ⟨c :: rest, pos⟩⟩
    else if inFlow && c == ':' && atMisplacedMark rest then none
    else if (c == ':' && atGap rest) || (inFlow && isFlowMark c) then
      some ⟨text.reverse, stop, gap.isAcross, ⟨c :: rest, pos⟩⟩
    else
      readFrom inFlow column (c :: (gap.text.reverse ++ text)) (pos.next c) .none rest (pos.next c)

/-- Reads the plain scalar at a place. -/
def read (inFlow : Bool) (column : Nat) (here : Cursor) : Option Plain :=
  readFrom inFlow column [] here.pos .none here.rest here.pos

end Plain

end ClosedLoop.Yaml
