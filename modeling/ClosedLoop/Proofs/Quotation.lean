import ClosedLoop.Json
import ClosedLoop.Yaml.Scalar.Quoted
import Mathlib.Algebra.GroupWithZero.Nat

/-!
# Texts of JSON in YAML

A text between quotes is written in JSON so that YAML reads it back: what is escaped is an escape of
YAML as well, and the characters that a document of YAML does not hold, or reads as breaks, are left
out by assumption.

* `Position.past` — the place behind some characters
* `isPortable` — the characters that both hold
* `read_quote` — a text that is quoted is read back
-/

namespace ClosedLoop

open Yaml (Position isBreak isBlankChar isReadable Gap)

/-! ## Places -/

namespace Yaml.Position

/-- The place behind some characters. -/
def past (pos : Position) (cs : List Char) : Position :=
  cs.foldl next pos

variable (pos : Position)

@[simp] theorem past_nil : pos.past [] = pos := rfl

@[simp] theorem past_cons (c : Char) (cs : List Char) :
    pos.past (c :: cs) = (pos.next c).past cs := rfl

theorem past_append (cs cs' : List Char) : pos.past (cs ++ cs') = (pos.past cs).past cs' :=
  List.foldl_append

theorem next_of_inLine {c : Char} (inLine : isBreak c = false) :
    pos.next c = ⟨pos.offset + c.utf8Size, pos.line, pos.column + 1⟩ := by
  rw [next, inLine]
  rfl

variable {cs : List Char}

/-- Within a line, a place moves on by the bytes and the characters before it. -/
theorem past_of_inLine (inLine : ∀ c ∈ cs, isBreak c = false) :
    pos.past cs =
      ⟨pos.offset + (cs.map Char.utf8Size).sum, pos.line, pos.column + cs.length⟩ := by
  induction cs generalizing pos with
  | nil => rfl
  | cons c cs ih =>
    rw [past_cons, ih _ fun d member => inLine d (List.mem_cons_of_mem _ member),
      next_of_inLine _ (inLine c (List.mem_cons_self ..))]
    simp only [List.map_cons, List.sum_cons, List.length_cons, Nat.add_assoc, Nat.add_comm 1]

/-- Behind characters of ASCII that do not break the line. -/
theorem ahead_eq_past (inLine : ∀ c ∈ cs, isBreak c = false) (ascii : ∀ c ∈ cs, c.utf8Size = 1) :
    pos.ahead cs.length = pos.past cs := by
  rw [past_of_inLine pos inLine, List.map_congr_left ascii, List.map_const',
    List.sum_replicate_nat, Nat.mul_one]
  rfl

end Yaml.Position

/-! ## Characters -/

/-- A character that texts of JSON and of YAML both hold, be it escaped. -/
def isPortable (c : Char) : Bool :=
  let n := c.toNat
  !((0x7F ≤ n && n ≤ 0x9F) || n == 0x2028 || n == 0x2029 || n == 0xFEFF || n == 0xFFFE ||
    n == 0xFFFF)

namespace Yaml

/-- A character that stands for itself in a line of a document. -/
def isInline (c : Char) : Bool :=
  isReadable c && !(isBreak c || c == '\t' || c == '\r' || c == '\x85')

theorem isBreak_of_isInline {c : Char} (inline_ : isInline c = true) : isBreak c = false := by
  simp only [isInline, Bool.and_eq_true, Bool.not_eq_true', Bool.or_eq_false_iff] at inline_
  exact inline_.2.1.1.1

end Yaml

open Yaml (isInline isBreak_of_isInline)

/-- A portable character from the space on stands for itself. -/
theorem isInline_of_isPortable {c : Char} (portable : isPortable c = true)
    (printable : 0x20 ≤ c.toNat) : isInline c = true := by
  have valid : c.toNat < 0xD800 ∨ 0xDFFF < c.toNat ∧ c.toNat < 0x110000 := c.valid
  simp only [isPortable, Bool.not_eq_true', Bool.or_eq_false_iff, Bool.and_eq_false_iff,
    decide_eq_false_iff_not, beq_eq_false_iff_ne] at portable
  have other (d : Char) (outside : d.toNat < 0x20 ∨ (0x7F ≤ d.toNat ∧ d.toNat ≤ 0x9F) ∨
      d.toNat = 0x2028 ∨ d.toNat = 0x2029) : (c == d) = false := by
    rw [beq_eq_false_iff_ne]
    rintro rfl
    omega
  have inLine : isBreak c = false := by
    rw [isBreak, other '\n' (by decide), other '\u2028' (by decide), other '\u2029' (by decide)]
    rfl
  rw [isInline, inLine, other '\t' (by decide), other '\r' (by decide), other '\x85' (by decide)]
  simp only [isReadable, Bool.or_false, Bool.not_false, Bool.and_true, Bool.or_eq_true,
    Bool.and_eq_true, beq_iff_eq, decide_eq_true_eq]
  omega

namespace Json

/-- The digits of a character below the space, which JSON may have no letter for. -/
def lowDigits (n : Nat) : List Char :=
  ['0', '0', Text.Quoted.hexChar (n / 16), Text.Quoted.hexChar (n % 16)]

theorem lowDigits_spec {n : Nat} (low : n < 0x20) :
    Text.Decimal.read? 16 (lowDigits n) = some n ∧
      ∀ d ∈ lowDigits n, isInline d = true ∧ d.utf8Size = 1 := by
  have read : ∀ m ∈ List.range 0x20, Text.Decimal.read? 16 (lowDigits m) = some m := by decide
  have ascii : ∀ m ∈ List.range 0x20,
      (lowDigits m).all (fun d => isInline d && d.utf8Size == 1) = true := by decide
  refine ⟨read n (List.mem_range.mpr low), fun d member => ?_⟩
  have both := List.all_eq_true.mp (ascii n (List.mem_range.mpr low)) d member
  rwa [Bool.and_eq_true, beq_iff_eq] at both

/-- All that a character can be written as between quotes. -/
inductive Escaped (c : Char) : List Char → Prop where
  /-- By a letter that means the same in YAML. -/
  | letter {e : Char} (named : Yaml.Quoted.namedEscape? e = some c) (inLine : isInline e = true) :
      Escaped c ['\\', e]
  /-- By its digits. -/
  | digits (low : c.toNat < 0x20) :
      Escaped c ('\\' :: 'u' :: lowDigits c.toNat)
  /-- By itself. -/
  | self (printable : 0x20 ≤ c.toNat) (unquoted : c ≠ '"') (unescaped : c ≠ '\\') :
      Escaped c [c]

theorem escaped (c : Char) : Escaped c (escape c) := by
  unfold escape
  split
  · next marked => rcases marked with rfl | rfl <;> exact .letter rfl rfl
  · next unmarked =>
    rw [not_or] at unmarked
    split
    · next same => subst same; exact .letter rfl rfl
    split
    · next same => subst same; exact .letter rfl rfl
    split
    · next same => subst same; exact .letter rfl rfl
    split
    · next same => subst same; exact .letter rfl rfl
    split
    · next same => subst same; exact .letter rfl rfl
    split
    · next low => exact .digits low
    · next printable => exact .self (Nat.le_of_not_lt printable) unmarked.1 unmarked.2

/-- What a portable character is written as stands in a line. -/
theorem isInline_of_mem_escape {c : Char} (portable : isPortable c = true) :
    ∀ o ∈ escape c, isInline o = true := by
  have shape := escaped c
  generalize escape c = written at shape ⊢
  cases shape with
  | @letter e named inLine =>
    intro o member
    rcases List.mem_cons.mp member with rfl | rest
    · rfl
    · rw [List.mem_singleton.mp rest]
      exact inLine
  | digits low =>
    intro o member
    rcases List.mem_cons.mp member with rfl | rest
    · rfl
    rcases List.mem_cons.mp rest with rfl | digit
    · rfl
    · exact ((lowDigits_spec low).2 o digit).1
  | self printable =>
    intro o member
    rw [List.mem_singleton.mp member]
    exact isInline_of_isPortable portable printable

end Json

/-! ## Quoted texts -/

/-- Within a line a gap keeps its blanks. -/
theorem Yaml.Gap.add_of_inLine {gap : Gap} {c : Char} (within : gap.isAcross = false)
    (inLine : isBreak c = false) :
    (gap.add c).isAcross = false ∧ (gap.add c).text = gap.text ++ [c] := by
  cases gap with
  | none => rw [add, if_neg (by simp [inLine])]; exact ⟨rfl, rfl⟩
  | blanks kept => rw [add, if_neg (by simp [inLine])]; exact ⟨rfl, rfl⟩
  | across first more => cases within

namespace Yaml.Quoted

open Json (escape)

variable {acc more : List Char} {gap : Gap} {pos : Position}

theorem atDocumentMark_of_column {cs : List Char} (inside : 0 < pos.column) :
    atDocumentMark cs pos = false := by
  rw [atDocumentMark, beq_eq_false_iff_ne.mpr (Nat.ne_of_gt inside)]
  rfl

/-- A backslash in a line. -/
theorem doubleFrom_escape {e : Char} (inLine : isBreak e = false) (inside : 0 < pos.column) :
    doubleFrom acc gap ('\\' :: e :: more) pos =
      match namedEscape? e, hexCount? e with
      | some named, _ =>
        doubleFrom (named :: (gap.text.reverse ++ acc)) .none more (pos.past ['\\', e])
      | none, some count =>
        match hexEscape? count more with
        | some spelled =>
          doubleFrom (spelled :: (gap.text.reverse ++ acc)) .none (more.drop count)
            ((pos.past ['\\', e]).ahead count)
        | none => none
      | none, none => none := by
  rw [doubleFrom, if_neg (by decide), atDocumentMark_of_column inside, if_neg Bool.false_ne_true,
    if_neg (by decide), if_pos (beq_self_eq_true _)]
  simp only [inLine, Bool.false_eq_true, if_false]
  rfl

theorem doubleFrom_cons {c : Char} (inLine : isBreak c = false) (inside : 0 < pos.column) :
    doubleFrom acc gap (c :: more) pos =
      if isBlankChar c then doubleFrom acc (gap.add c) more (pos.next c)
      else if c = '"' then some ((gap.text.reverse ++ acc).reverse, ⟨more, pos.next c⟩)
      else if c = '\\' then doubleFrom acc gap ('\\' :: more) pos
      else doubleFrom (c :: (gap.text.reverse ++ acc)) .none more (pos.next c) := by
  by_cases escaped : c = '\\'
  · subst escaped
    rfl
  · rw [doubleFrom.eq_def]
    simp only [inLine, atDocumentMark_of_column inside, Bool.or_false, Bool.false_eq_true, if_false,
      beq_iff_eq, if_neg escaped]

theorem scalarValue?_toNat (c : Char) : scalarValue? c.toNat = some c := by
  have valid : c.toNat.isValidChar := c.valid
  rw [scalarValue?, dif_pos valid]
  rfl

/-- A character by its four digits. -/
theorem doubleFrom_digits {c : Char} {digits : List Char} (four : digits.length = 4)
    (value : Text.Decimal.read? 16 digits = some c.toNat)
    (ascii : ∀ d ∈ digits, isInline d = true ∧ d.utf8Size = 1) (inside : 0 < pos.column) :
    doubleFrom acc gap ('\\' :: 'u' :: digits ++ more) pos =
      doubleFrom (c :: (gap.text.reverse ++ acc)) .none more
        (pos.past ('\\' :: 'u' :: digits)) := by
  have long : ¬(digits ++ more).length < 4 := by
    rw [List.length_append]
    omega
  have spelled : hexEscape? 4 (digits ++ more) = some c := by
    rw [hexEscape?, if_neg long, List.take_left' four, value]
    exact scalarValue?_toNat c
  show doubleFrom acc gap ('\\' :: 'u' :: (digits ++ more)) pos = _
  rw [doubleFrom_escape rfl inside]
  show (match hexEscape? 4 (digits ++ more) with | some spelled => _ | none => _) = _
  rw [spelled]
  show doubleFrom _ _ ((digits ++ more).drop 4) ((pos.past ['\\', 'u']).ahead 4) = _
  rw [List.drop_left' four, ← four, Position.ahead_eq_past _
    (fun d member => isBreak_of_isInline (ascii d member).1) fun d member => (ascii d member).2]
  rfl

/-- What a character is written as is read as the character. -/
theorem exists_doubleFrom (acc : List Char) {c : Char} (portable : isPortable c = true)
    (within : gap.isAcross = false) (inside : 0 < pos.column) :
    ∃ acc' gap', gap'.isAcross = false ∧
      gap'.text.reverse ++ acc' = c :: (gap.text.reverse ++ acc) ∧
      ∀ more, doubleFrom acc gap (escape c ++ more) pos =
        doubleFrom acc' gap' more (pos.past (escape c)) := by
  have inline_ := Json.isInline_of_mem_escape portable
  have shape := Json.escaped c
  generalize escape c = written at shape inline_ ⊢
  cases shape with
  | @letter e named inLine =>
    refine ⟨c :: (gap.text.reverse ++ acc), .none, rfl, rfl, fun more => ?_⟩
    show doubleFrom acc gap ('\\' :: e :: more) pos = _
    rw [doubleFrom_escape (isBreak_of_isInline inLine) inside, named]
  | digits low =>
    obtain ⟨value, ascii⟩ := Json.lowDigits_spec low
    exact ⟨c :: (gap.text.reverse ++ acc), .none, rfl, rfl, fun more =>
      doubleFrom_digits rfl value ascii inside⟩
  | self printable unquoted unescaped =>
    have inLine := isBreak_of_isInline (inline_ c (List.mem_singleton_self c))
    by_cases blank : isBlankChar c = true
    · -- A blank waits in the gap until something is read that is none.
      obtain ⟨within', text⟩ := Gap.add_of_inLine within inLine
      refine ⟨acc, gap.add c, within', ?_, fun more => ?_⟩
      · rw [text, List.reverse_append]
        rfl
      · show doubleFrom acc gap (c :: more) pos = _
        rw [doubleFrom_cons inLine inside, if_pos blank]
        rfl
    · refine ⟨c :: (gap.text.reverse ++ acc), .none, rfl, rfl, fun more => ?_⟩
      show doubleFrom acc gap (c :: more) pos = _
      rw [doubleFrom_cons inLine inside, if_neg blank, if_neg unquoted, if_neg unescaped]
      rfl

/-- The characters of a text, up to the quote behind them. -/
theorem doubleFrom_flatMap_escape {cs : List Char} (portable : ∀ c ∈ cs, isPortable c = true)
    (within : gap.isAcross = false) (inside : 0 < pos.column) :
    doubleFrom acc gap (cs.flatMap escape ++ '"' :: more) pos =
      some ((gap.text.reverse ++ acc).reverse ++ cs,
        ⟨more, pos.past (cs.flatMap escape ++ ['"'])⟩) := by
  induction cs generalizing acc gap pos with
  | nil =>
    show doubleFrom acc gap ('"' :: more) pos = _
    rw [doubleFrom_cons rfl inside, if_neg (by decide), if_pos rfl, List.append_nil]
    rfl
  | cons c cs ih =>
    have first := portable c (List.mem_cons_self ..)
    obtain ⟨acc', gap', within', text, read⟩ := exists_doubleFrom acc first within inside
    -- The rest is read within the line, where no mark of the document can begin.
    have inside' : 0 < (pos.past (escape c)).column := by
      rw [Position.past_of_inLine _ fun o member =>
        isBreak_of_isInline (Json.isInline_of_mem_escape first o member)]
      exact Nat.lt_of_lt_of_le inside (Nat.le_add_right _ _)
    rw [List.flatMap_cons, List.append_assoc, read,
      ih (fun d member => portable d (List.mem_cons_of_mem _ member)) within' inside', text,
      List.reverse_cons, List.append_assoc, List.append_assoc, Position.past_append pos]
    rfl

end Yaml.Quoted

/-- A text that is quoted is read back, and the place behind it is that of its characters. -/
theorem Yaml.Quoted.read_quote {text : String} (portable : ∀ c ∈ text.toList, isPortable c = true)
    (more : List Char) (pos : Position) :
    read true ⟨Json.quote text ++ more, pos⟩ =
      some (text.toList, ⟨more, pos.past (Json.quote text)⟩) := by
  have inside : 0 < (pos.next '"').column := Nat.succ_pos _
  have shape : Json.quote text ++ more =
      '"' :: (text.toList.flatMap Json.escape ++ '"' :: more) := by
    rw [Json.quote, List.append_assoc]
    rfl
  rw [shape]
  exact doubleFrom_flatMap_escape portable rfl inside

end ClosedLoop
