import ClosedLoop.Text.Alphanumeric
import ClosedLoop.Text.Decimal

/-!
# Patterns

Whether a text is a pattern, that is a regular expression. Patterns have groups, alternatives,
repetitions, sets in brackets, and a backslash in front of characters. They have neither classes of
Unicode nor bounds of words nor case folding. A brace would count repetitions; it is never well
placed here, as no text that is asked about holds the closing one.

A text is read in two passes: `signs?` takes the backslashes away, and `accepts` checks what is left.
-/

namespace ClosedLoop.Report.Pattern

open Text

/-- A character of a pattern without its backslash. -/
inductive Sign where
  /-- It may have a meaning. -/
  | bare (c : Char)
  /-- It stands for itself. -/
  | literal (c : Char)
  /-- It stands for the beginning or the end of the text. -/
  | bound
  deriving DecidableEq, Repr

/-- Where the reading of backslashes is. -/
inductive Escape where
  | none
  /-- Behind a backslash. -/
  | opened
  /-- Within a code point in base 16, with `left` digits to come. -/
  | code (left value : Nat)
  deriving DecidableEq, Repr

/-- The control characters that have a letter. -/
def control? : Char → Option Char
  | 'a' => some '\x07'
  | 'f' => some '\x0c'
  | 'n' => some '\n'
  | 'r' => some '\r'
  | 't' => some '\t'
  | 'v' => some '\x0b'
  | _ => none

/-- A mark of ASCII that may stand behind a backslash. -/
def isMark (c : Char) : Bool :=
  c.toNat < 0x80 && !c.isAlphanum && c != '<' && c != '>'

/-- Takes the backslashes away. -/
def signs? : Escape → List Char → Option (List Sign)
  | .none, [] => some []
  | _, [] => none
  | .none, c :: rest =>
    if c == '\\' then signs? .opened rest else (signs? .none rest).map (.bare c :: ·)
  | .opened, c :: rest =>
    if c == 'x' then signs? (.code 2 0) rest
    else if c == 'u' then signs? (.code 4 0) rest
    else if c == 'U' then signs? (.code 8 0) rest
    else if c == 'A' || c == 'z' then (signs? .none rest).map (.bound :: ·)
    else if isMark c then (signs? .none rest).map (.literal c :: ·)
    else
      match control? c with
      | some control => (signs? .none rest).map (.literal control :: ·)
      | none => none
  | .code left value, c :: rest =>
    match Decimal.digitValue? 16 c with
    | some d =>
      let value := value * 16 + d
      if 1 < left then signs? (.code (left - 1) value) rest
      else if value.isValidChar then (signs? .none rest).map (.literal (Char.ofNat value) :: ·)
      else none
    | none => none

/-- Where the reading of a set is. -/
inductive Stage where
  /-- Behind the bracket. -/
  | fresh
  /-- Behind the mark that turns the set into all other characters. -/
  | negated
  /-- Behind hyphens at the beginning. -/
  | dashed
  /-- Behind a member, if one that a range may begin with. -/
  | inside (member : Option Char)
  /-- Behind the hyphen of a range. -/
  | ranging (first : Char)
  deriving DecidableEq, Repr

/-- Where the reading of a pattern is. -/
inductive Mode where
  /-- Between parts; whether the part before may be repeated. -/
  | parts (operand : Bool)
  /-- In the flags of a group. -/
  | flags (seen : List Char)
  /-- In the name of a group. -/
  | name (started : Bool)
  /-- In a set, with `outer` sets around it. -/
  | set (outer : Nat) (stage : Stage)
  deriving DecidableEq, Repr

/-- Behind the end of a set. -/
def Mode.leaveSet : Nat → Mode
  | 0 => .parts true
  | outer + 1 => .set outer (.inside none)

/-- A character of the name of a group. -/
def isNameChar (started : Bool) (c : Char) : Bool :=
  c == '_' || (isAlphanumeric c && (started || !c.isDigit)) ||
    (started && (c == '.' || c == '[' || c == ']'))

/-- Checks a pattern from a place with `depth` groups around it. -/
def accepts : Nat → Mode → List Sign → Bool
  | depth, .parts _, [] => depth == 0
  | _, _, [] => false
  | depth, .parts _, .bare '(' :: .bare '?' :: .bare ':' :: rest =>
    accepts (depth + 1) (.parts false) rest
  | depth, .parts _, .bare '(' :: .bare '?' :: .bare '<' :: rest =>
    accepts (depth + 1) (.name false) rest
  | depth, .parts _, .bare '(' :: .bare '?' :: .bare 'P' :: .bare '<' :: rest =>
    accepts (depth + 1) (.name false) rest
  | depth, .parts _, .bare '(' :: .bare '?' :: rest => accepts depth (.flags []) rest
  | depth, .parts _, .bare '(' :: rest => accepts (depth + 1) (.parts false) rest
  | depth, .parts _, .bare ')' :: rest => 0 < depth && accepts (depth - 1) (.parts true) rest
  | depth, .parts _, .bare '|' :: rest => accepts depth (.parts false) rest
  | depth, .parts _, .bare '[' :: rest => accepts depth (.set 0 .fresh) rest
  | depth, .parts operand, .bare '*' :: rest => operand && accepts depth (.parts true) rest
  | depth, .parts operand, .bare '+' :: rest => operand && accepts depth (.parts true) rest
  | depth, .parts operand, .bare '?' :: rest => operand && accepts depth (.parts true) rest
  | _, .parts _, .bare '\x7b' :: _ => false
  | depth, .parts _, _ :: rest => accepts depth (.parts true) rest
  | depth, .flags seen, .bare ')' :: rest => !seen.isEmpty && accepts depth (.parts false) rest
  | depth, .flags seen, .bare ':' :: rest =>
    !seen.isEmpty && accepts (depth + 1) (.parts false) rest
  | depth, .flags seen, .bare c :: rest =>
    "smUuRx".toList.contains c && !seen.contains c && accepts depth (.flags (c :: seen)) rest
  | _, .flags _, _ :: _ => false
  | depth, .name started, .bare '>' :: rest => started && accepts depth (.parts false) rest
  | depth, .name started, .bare c :: rest => isNameChar started c && accepts depth (.name true) rest
  | _, .name _, _ :: _ => false
  | depth, .set outer (.ranging first), .bare last :: rest =>
    first ≤ last && accepts depth (.set outer (.inside none)) rest
  | depth, .set outer (.ranging first), .literal last :: rest =>
    first ≤ last && accepts depth (.set outer (.inside none)) rest
  | depth, .set outer .fresh, .bare '^' :: rest => accepts depth (.set outer .negated) rest
  | depth, .set outer (.inside _), .bare '-' :: .bare '-' :: rest =>
    accepts depth (.set outer (.inside none)) rest
  | depth, .set outer (.inside (some _)), .bare '-' :: .bare ']' :: rest =>
    accepts depth (.leaveSet outer) rest
  | depth, .set outer (.inside (some first)), .bare '-' :: rest =>
    accepts depth (.set outer (.ranging first)) rest
  | depth, .set outer stage, .bare '-' :: rest =>
    accepts depth (.set outer (if stage == .inside none then .inside (some '-') else .dashed)) rest
  | depth, .set outer stage, .bare ']' :: rest =>
    accepts depth
      (if stage == .fresh || stage == .negated then .set outer (.inside none) else .leaveSet outer)
      rest
  | depth, .set outer _, .bare '[' :: rest => accepts depth (.set (outer + 1) .fresh) rest
  | depth, .set outer _, .bare c :: rest => accepts depth (.set outer (.inside (some c))) rest
  | depth, .set outer _, .literal c :: rest => accepts depth (.set outer (.inside (some c))) rest
  | _, .set _ _, .bound :: _ => false

end Pattern

/-- The text is a pattern. -/
def isPattern (cs : List Char) : Bool :=
  match Pattern.signs? .none cs with
  | some signs => Pattern.accepts 0 (.parts false) signs
  | none => false

end ClosedLoop.Report
