/-!
# Places in a document

A place is the number of bytes before it in UTF-8, and its line and column counted from zero, the
column in characters. A line break counts as one character, which `unifyBreaks` sees to: it turns
each of CR LF, CR and NEL into LF. The separators U+2028 and U+2029 break lines as well and are kept.
-/

namespace ClosedLoop.Yaml

/-- A place in a document. -/
structure Position where
  offset : Nat := 0
  line : Nat := 0
  column : Nat := 0
  deriving DecidableEq, Repr, Inhabited

/-- A line break, once breaks are unified. -/
def isBreak (c : Char) : Bool :=
  c == '\n' || c == '\u2028' || c == '\u2029'

/-- A space or a tab. -/
def isBlankChar (c : Char) : Bool :=
  c == ' ' || c == '\t'

/-- The place behind a character. -/
def Position.next (pos : Position) (c : Char) : Position :=
  if isBreak c then ⟨pos.offset + c.utf8Size, pos.line + 1, 0⟩
  else ⟨pos.offset + c.utf8Size, pos.line, pos.column + 1⟩

/-- The place behind some characters of ASCII that do not break the line. -/
def Position.ahead (pos : Position) (n : Nat) : Position :=
  ⟨pos.offset + n, pos.line, pos.column + n⟩

/-- A character that may stand in a document. -/
def isReadable (c : Char) : Bool :=
  let n := c.toNat
  n == 0x09 || n == 0x0A || n == 0x0D || (0x20 ≤ n && n ≤ 0x7E) || n == 0x85 ||
    (0xA0 ≤ n && n ≤ 0xD7FF) || (0xE000 ≤ n && n ≤ 0xFFFD) || 0x10000 ≤ n

/-- Turns each of CR LF, CR and NEL into LF. -/
def unifyBreaks : List Char → List Char
  | [] => []
  | '\r' :: '\n' :: rest => '\n' :: unifyBreaks rest
  | c :: rest => (if c == '\r' || c == '\x85' then '\n' else c) :: unifyBreaks rest

/-! ## Reading on -/

/-- What is left of a document, and where it begins. -/
structure Cursor where
  rest : List Char
  pos : Position := {}

namespace Cursor

/-- Behind the next character. -/
def advance (here : Cursor) : Cursor :=
  match here.rest with
  | [] => here
  | c :: rest => ⟨rest, here.pos.next c⟩

/-- Behind the next `n` characters. -/
def advanceBy : Nat → Cursor → Cursor
  | 0, here => here
  | n + 1, here => advanceBy n here.advance

/-- Takes the characters up to the first one that fails a test. -/
def spanFrom (test : Char → Bool) : List Char → Position → List Char × Cursor
  | [], pos => ([], ⟨[], pos⟩)
  | c :: rest, pos =>
    if test c then
      let (taken, behind) := spanFrom test rest (pos.next c)
      (c :: taken, behind)
    else ([], ⟨c :: rest, pos⟩)

def span (test : Char → Bool) (here : Cursor) : List Char × Cursor :=
  spanFrom test here.rest here.pos

/-- Skips the characters up to the first one that fails a test. -/
def skip (test : Char → Bool) (here : Cursor) : Cursor :=
  (here.span test).2

end Cursor

/-! ## Character classes -/

/-- Ends here, or goes on with a blank or a break. -/
def atGap : List Char → Bool
  | [] => true
  | c :: _ => isBlankChar c || isBreak c

/-- Ends here, or goes on with a break. -/
def atLineEnd : List Char → Bool
  | [] => true
  | c :: _ => isBreak c

/-- A letter or digit of ASCII, an underscore or a hyphen. -/
def isWordChar (c : Char) : Bool :=
  c.isAlphanum || c == '_' || c == '-'

/-- Goes on with the mark that begins a document. -/
def atDocumentStart : List Char → Bool
  | '-' :: '-' :: '-' :: rest => atGap rest
  | _ => false

/-- Goes on with the mark that ends a document. -/
def atDocumentEnd : List Char → Bool
  | '.' :: '.' :: '.' :: rest => atGap rest
  | _ => false

end ClosedLoop.Yaml
