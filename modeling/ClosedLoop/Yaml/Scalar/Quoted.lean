import ClosedLoop.Text.Decimal
import ClosedLoop.Yaml.Gap

/-!
# Quoted scalars

Between single quotes a quote is written twice and nothing else is special. Between double quotes a
backslash stands before a letter for a character, before the hexadecimal digits of one, or before a
break that is to vanish. White space within either folds as in plain scalars, and a mark of a
document cannot stand at the beginning of a line.

## Termination

* `singleFrom`, `doubleFrom`: what is left of the document gets shorter
-/

namespace ClosedLoop.Yaml.Quoted

/-- A mark of a document at the beginning of a line. -/
def atDocumentMark (cs : List Char) (pos : Position) : Bool :=
  pos.column == 0 && (atDocumentStart cs || atDocumentEnd cs)

/-- Reads on between single quotes, behind `text` (the last character first) and a gap. -/
def singleFrom (text : List Char) : Gap → List Char → Position → Option (List Char × Cursor)
  | _, [], _ => none
  | gap, c :: rest, pos =>
    if isBlankChar c || isBreak c then singleFrom text (gap.add c) rest (pos.next c)
    else if atDocumentMark (c :: rest) pos then none
    else if c == '\'' then
      match rest with
      | '\'' :: more =>
        singleFrom ('\'' :: (gap.text.reverse ++ text)) .none more ((pos.next c).next c)
      | _ => some ((gap.text.reverse ++ text).reverse, ⟨rest, pos.next c⟩)
    else singleFrom (c :: (gap.text.reverse ++ text)) .none rest (pos.next c)

/-- The character that a letter behind a backslash stands for. -/
def namedEscape? : Char → Option Char
  | '0' => some '\x00'
  | 'a' => some '\x07'
  | 'b' => some '\x08'
  | 't' | '\t' => some '\t'
  | 'n' => some '\n'
  | 'v' => some '\x0b'
  | 'f' => some '\x0c'
  | 'r' => some '\r'
  | 'e' => some '\x1b'
  | ' ' => some ' '
  | '"' => some '"'
  | '/' => some '/'
  | '\\' => some '\\'
  | 'N' => some '\x85'
  | '_' => some '\xa0'
  | 'L' => some '\u2028'
  | 'P' => some '\u2029'
  | _ => none

/-- How many hexadecimal digits follow a letter behind a backslash. -/
def hexCount? : Char → Option Nat
  | 'x' => some 2
  | 'u' => some 4
  | 'U' => some 8
  | _ => none

/-- The character with a code point, unless it is a surrogate or too large. -/
def scalarValue? (n : Nat) : Option Char :=
  if h : n.isValidChar then some (Char.ofNatAux n h) else none

/-- The character spelled out by the first `count` digits. -/
def hexEscape? (count : Nat) (cs : List Char) : Option Char :=
  if cs.length < count then none else (Text.Decimal.read? 16 (cs.take count)).bind scalarValue?

/-- Reads on between double quotes, behind `text` (the last character first) and a gap. -/
def doubleFrom (text : List Char) (gap : Gap) (cs : List Char) (pos : Position) :
    Option (List Char × Cursor) :=
  match cs with
  | [] => none
  | c :: rest =>
    if isBlankChar c || isBreak c then doubleFrom text (gap.add c) rest (pos.next c)
    else if atDocumentMark (c :: rest) pos then none
    else if c == '"' then some ((gap.text.reverse ++ text).reverse, ⟨rest, pos.next c⟩)
    else if c == '\\' then
      match rest with
      | [] => none
      | e :: more =>
        if isBreak e then
          doubleFrom (gap.text.reverse ++ text) (.across none []) more ((pos.next c).next e)
        else
          match namedEscape? e, hexCount? e with
          | some named, _ =>
            doubleFrom (named :: (gap.text.reverse ++ text)) .none more ((pos.next c).next e)
          | none, some count =>
            match hexEscape? count more with
            | some spelled =>
              doubleFrom (spelled :: (gap.text.reverse ++ text)) .none (more.drop count)
                (((pos.next c).next e).ahead count)
            | none => none
          | none, none => none
    else doubleFrom (c :: (gap.text.reverse ++ text)) .none rest (pos.next c)
termination_by cs.length
decreasing_by all_goals simp <;> omega

/-- The text between the quotes at a place, and what stands behind them. -/
def read (isDouble : Bool) (here : Cursor) : Option (List Char × Cursor) :=
  let inside := here.advance
  if isDouble then doubleFrom [] .none inside.rest inside.pos
  else singleFrom [] .none inside.rest inside.pos

end ClosedLoop.Yaml.Quoted
