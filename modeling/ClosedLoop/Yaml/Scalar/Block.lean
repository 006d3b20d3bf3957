import ClosedLoop.Yaml.Position

/-!
# Block scalars

A block scalar is a header line and the lines below it that are indented further than what surrounds
them: as far as the header says, or else as the first of them that is not empty. A literal one keeps
its lines. In a folded one a break between two lines that begin with a word becomes a space, or
vanishes where empty lines follow. The header says whether the breaks at the end are dropped, kept
up to the first, or all kept.
-/

namespace ClosedLoop.Yaml.Block

/-- What becomes of the breaks at the end. -/
inductive Chomping where
  | strip
  | clip
  | keep

/-- What a header says: the breaks at the end, and how far the lines are indented further. -/
structure Header where
  chomping : Chomping := .clip
  increment : Option Nat := none

/-- The chomping that a sign stands for. -/
def chomping? : Char → Option Chomping
  | '+' => some .keep
  | '-' => some .strip
  | _ => none

/-- The increment that a digit stands for; `none` inside for zero, which is not one. -/
def increment? (c : Char) : Option (Option Nat) :=
  if c.isDigit then some (if c == '0' then none else some (c.toNat - 0x30)) else none

/-- Reads the sign and the digit of a header, in either order. -/
def header? (here : Cursor) : Option (Header × Cursor) :=
  match here.rest with
  | [] => some ({}, here)
  | c :: rest =>
    match chomping? c, increment? c with
    | some chomping, _ =>
      match rest.head?.bind increment? with
      | some (some n) => some (⟨chomping, some n⟩, here.advanceBy 2)
      | some none => none
      | none => some (⟨chomping, none⟩, here.advance)
    | none, some (some n) =>
      match rest.head?.bind chomping? with
      | some chomping => some (⟨chomping, some n⟩, here.advanceBy 2)
      | none => some (⟨.clip, some n⟩, here.advance)
    | none, some none => none
    | none, none => some ({}, here)

/-- Reads the rest of a header line: blanks, a comment, and the break. -/
def lineEnd? (here : Cursor) : Option Cursor :=
  let here := here.skip isBlankChar
  let here := if here.rest.head? == some '#' then here.skip (!isBreak ·) else here
  if atLineEnd here.rest then some here.advance else none

/-- The lines read so far. -/
structure Lines where
  /-- The column of the lines, zero while it is not known. -/
  column : Nat
  /-- The furthest column at which a line without text ended. -/
  furthest : Nat := 0
  /-- The text, the last character first. -/
  text : List Char := []
  /-- The break behind the last line with text. -/
  lineBreak : List Char := []
  /-- The breaks of the empty lines behind that. -/
  emptyBreaks : List Char := []
  /-- Whether the last line with text begins with a blank. -/
  blankFirst : Bool := false

/-- The column of the lines once the first with text, or the end, is reached. -/
def Lines.settle (least : Nat) (lines : Lines) (column : Nat) : Lines :=
  let furthest := max lines.furthest column
  if lines.column = 0 then { lines with column := max (max furthest least) 1, furthest }
  else { lines with furthest }

/-- Begins a line with text. -/
def Lines.startLine (folded : Bool) (lines : Lines) (c : Char) : Lines :=
  let joined := folded && lines.lineBreak == ['\n'] && !lines.blankFirst && !isBlankChar c
  let between :=
    if joined then (if lines.emptyBreaks.isEmpty then [' '] else [])
    else lines.lineBreak
  { lines with
    text := c :: ((between ++ lines.emptyBreaks).reverse ++ lines.text)
    lineBreak := []
    emptyBreaks := []
    blankFirst := isBlankChar c }

/-- The whole text. -/
def Lines.finish (chomping : Chomping) (lines : Lines) : List Char :=
  lines.text.reverse ++
    match chomping with
    | .strip => []
    | .clip => lines.lineBreak
    | .keep => lines.lineBreak ++ lines.emptyBreaks

/--
Reads lines; `inLine` says whether the place is behind the first character of one with text. `none`
is a tab that takes the place of indentation.
-/
def linesFrom (folded : Bool) (least : Nat) :
    (inLine : Bool) → Lines → List Char → Position → Option (Lines × Cursor)
  | true, lines, [], pos => some (lines, ⟨[], pos⟩)
  | true, lines, c :: rest, pos =>
    if isBreak c then linesFrom folded least false { lines with lineBreak := [c] } rest (pos.next c)
    else linesFrom folded least true { lines with text := c :: lines.text } rest (pos.next c)
  | false, lines, [], pos => some (lines.settle least pos.column, ⟨[], pos⟩)
  | false, lines, c :: rest, pos =>
    let outside := lines.column = 0 || pos.column < lines.column
    if c == ' ' && outside then linesFrom folded least false lines rest (pos.next c)
    else if c == '\t' && outside then none
    else if isBreak c then
      linesFrom folded least false
        { lines with
          furthest := max lines.furthest pos.column
          emptyBreaks := lines.emptyBreaks ++ [c] }
        rest (pos.next c)
    else
      let lines := lines.settle least pos.column
      if pos.column = lines.column then
        linesFrom folded least true (lines.startLine folded c) rest (pos.next c)
      else some (lines, ⟨c :: rest, pos⟩)

/-- Reads the block scalar at a place; `indent` is the column of what surrounds it, if any. -/
def read (folded : Bool) (indent : Option Nat) (here : Cursor) : Option (List Char × Cursor) :=
  match header? here.advance with
  | none => none
  | some (header, here) =>
    match lineEnd? here with
    | none => none
    | some here =>
      let column :=
        match header.increment with
        | some n => indent.getD 0 + n
        | none => 0
      let least := match indent with
        | some column => column + 1
        | none => 0
      match linesFrom folded least false { column } here.rest here.pos with
      | some (lines, behind) => some (lines.finish header.chomping, behind)
      | none => none

end ClosedLoop.Yaml.Block
