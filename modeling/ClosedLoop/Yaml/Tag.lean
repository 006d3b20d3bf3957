import ClosedLoop.Text.Decimal
import ClosedLoop.Yaml.Position

/-!
# Anchors, tags and directives

Names of nodes, kinds of nodes, and the lines with a percent sign before a document. A tag is a
handle, which stands for the beginning of a longer name, and a suffix. In both, a percent sign stands
before the two hexadecimal digits of an octet; octets beyond ASCII are kept as characters of the same
value, as no tag of this library holds any. Either part ends before the octet zero, whatever follows.

## Termination

* `suffixFrom`: what is left of the document gets shorter
-/

namespace ClosedLoop.Yaml

/-! ## Anchors -/

/-- Whether a name of a node may end here. -/
def atNameEnd : List Char → Bool
  | [] => true
  | c :: _ => isBlankChar c || isBreak c || "?:,]\x7d%@\x60".toList.contains c

/-- Reads the name behind the mark of an anchor or an alias. -/
def name? (here : Cursor) : Option (List Char × Cursor) :=
  let (name, behind) := here.advance.span isWordChar
  if name.isEmpty || !atNameEnd behind.rest then none else some (name, behind)

/-! ## Tags -/

/-- A character of a tag; the last three only in a name that is written out in full. -/
def isTagChar (inFull : Bool) (c : Char) : Bool :=
  isWordChar c || ";/?:@&=+$.%!~*'()".toList.contains c || (inFull && ",[]".toList.contains c)

/-- How many octets a character takes that begins with an octet. -/
def octetCount? (octet : Nat) : Option Nat :=
  if octet < 0x80 then some 1
  else if 0xC0 ≤ octet && octet < 0xE0 then some 2
  else if 0xE0 ≤ octet && octet < 0xF0 then some 3
  else if 0xF0 ≤ octet && octet < 0xF8 then some 4
  else none

/-- Reads one octet behind a percent sign. -/
def octet? : List Char → Option (Nat × List Char)
  | '%' :: a :: b :: rest => (Text.Decimal.read? 16 [a, b]).map (·, rest)
  | _ => none

/-- Reads the octets behind the first one of a character. -/
def trailing? : Nat → List Char → Option (List Nat × List Char)
  | 0, cs => some ([], cs)
  | n + 1, cs =>
    match octet? cs with
    | some (octet, rest) =>
      if 0x80 ≤ octet && octet < 0xC0 then
        (trailing? n rest).map fun (more, behind) => (octet :: more, behind)
      else none
    | none => none

/-- Reads the octets of one character. -/
def octets? (cs : List Char) : Option (List Nat × List Char) :=
  match octet? cs with
  | some (octet, rest) =>
    match octetCount? octet with
    | some count => (trailing? (count - 1) rest).map fun (more, behind) => (octet :: more, behind)
    | none => none
  | none => none

theorem octet?_length {cs rest : List Char} {octet : Nat} (h : octet? cs = some (octet, rest)) :
    rest.length < cs.length := by
  unfold octet? at h
  split at h
  · simp only [Option.map_eq_some_iff, Prod.mk.injEq] at h
    obtain ⟨_, _, _, rfl⟩ := h
    simp only [List.length_cons]
    omega
  · cases h

theorem trailing?_length {n : Nat} {cs rest : List Char} {octets : List Nat}
    (h : trailing? n cs = some (octets, rest)) : rest.length ≤ cs.length := by
  induction n generalizing cs octets with
  | zero =>
    simp only [trailing?, Option.some.injEq, Prod.mk.injEq] at h
    exact Nat.le_of_eq (congrArg List.length h.2.symm)
  | succ n ih =>
    simp only [trailing?] at h
    split at h
    · rename_i first
      split at h
      · simp only [Option.map_eq_some_iff, Prod.mk.injEq] at h
        obtain ⟨⟨more, behind⟩, found, _, rfl⟩ := h
        exact Nat.le_trans (ih found) (Nat.le_of_lt (octet?_length first))
      · cases h
    · cases h

theorem octets?_length {cs rest : List Char} {octets : List Nat}
    (h : octets? cs = some (octets, rest)) : rest.length < cs.length := by
  unfold octets? at h
  split at h
  · rename_i first
    split at h
    · simp only [Option.map_eq_some_iff, Prod.mk.injEq] at h
      obtain ⟨⟨more, behind⟩, found, _, rfl⟩ := h
      exact Nat.lt_of_le_of_lt (trailing?_length found) (octet?_length first)
    · cases h
  · cases h

/-- Reads characters of a tag up to the first that is none. -/
def suffixFrom (inFull : Bool) (cs : List Char) (pos : Position) : Option (List Char × Cursor) :=
  match cs with
  | [] => some ([], ⟨[], pos⟩)
  | c :: rest =>
    if c == '%' then
      match found : octets? (c :: rest) with
      | some (octets, behind) =>
        (suffixFrom inFull behind (pos.ahead (3 * octets.length))).map fun (more, here) =>
          (octets.map Char.ofNat ++ more, here)
      | none => none
    else if isTagChar inFull c then
      (suffixFrom inFull rest (pos.next c)).map fun (more, here) => (c :: more, here)
    else some ([], ⟨c :: rest, pos⟩)
termination_by cs.length
decreasing_by
  · exact octets?_length found
  · simp

/-- The part of a tag that counts: what stands before the octet zero. -/
def beforeZero (cs : List Char) : List Char :=
  cs.takeWhile (· != '\x00')

/-- Reads the characters of a tag, of which there has to be one. -/
def suffix? (inFull : Bool) (here : Cursor) : Option (List Char × Cursor) :=
  match suffixFrom inFull here.rest here.pos with
  | some (cs, behind) => if cs.isEmpty then none else some (beforeZero cs, behind)
  | none => none

/-- Reads a handle: exclamation marks around a word, or one in front of it. -/
def handle? (here : Cursor) : Option (List Char × Cursor) :=
  match here.rest with
  | '!' :: _ =>
    let (word, behind) := here.advance.span isWordChar
    match behind.rest with
    | '!' :: _ => some ('!' :: word ++ ['!'], behind.advance)
    | _ => some ('!' :: word, behind)
  | _ => none

/-- Whether a handle stands between two exclamation marks. -/
def isClosedHandle (handle : List Char) : Bool :=
  2 ≤ handle.length && handle.getLast? == some '!'

/-- Reads the handle and the suffix of a tag. -/
def tagParts? (here : Cursor) : Option ((List Char × List Char) × Cursor) :=
  match here.rest with
  | '!' :: '<' :: _ =>
    match suffix? true (here.advanceBy 2) with
    | some (suffix, behind) =>
      if behind.rest.head? == some '>' then some (([], suffix), behind.advance) else none
    | none => none
  | _ =>
    match handle? here with
    | some (handle, behind) =>
      if isClosedHandle handle then
        (suffix? false behind).map fun (suffix, behind) => ((handle, suffix), behind)
      else
        match suffixFrom false behind.rest behind.pos with
        | some (more, behind) =>
          let suffix := beforeZero (handle.tail ++ more)
          some ((if suffix.isEmpty then ([], ['!']) else (['!'], suffix)), behind)
        | none => none
    | none => none

/-- Reads the tag at a place, behind which there has to be a gap or, in a flow collection, a comma. -/
def tag? (inFlow : Bool) (here : Cursor) : Option ((List Char × List Char) × Cursor) :=
  match tagParts? here with
  | some (parts, behind) =>
    if atGap behind.rest || (inFlow && behind.rest.head? == some ',') then some (parts, behind)
    else none
  | none => none

/-! ## Directives -/

/-- What a line with a percent sign says. -/
inductive Directive where
  | version (major minor : Nat)
  | tag (handle lead : List Char)

/-- Reads a number of at most nine digits. -/
def versionNumber? (here : Cursor) : Option (Nat × Cursor) :=
  let (digits, behind) := here.span Char.isDigit
  if 9 < digits.length then none else (Text.Decimal.read? 10 digits).map (·, behind)

/-- Reads a version. -/
def version? (here : Cursor) : Option (Directive × Cursor) :=
  match versionNumber? (here.skip isBlankChar) with
  | some (major, behind) =>
    match behind.rest with
    | '.' :: _ =>
      (versionNumber? behind.advance).map fun (minor, behind) => (.version major minor, behind)
    | _ => none
  | none => none

/-- Reads a handle and what it stands for. -/
def tagDirective? (here : Cursor) : Option (Directive × Cursor) :=
  match handle? (here.skip isBlankChar) with
  | some (handle, behind) =>
    if (handle == ['!'] || isClosedHandle handle) && behind.rest.head?.any isBlankChar then
      match suffix? true (behind.skip isBlankChar) with
      | some (lead, behind) =>
        if atGap behind.rest then some (.tag handle lead, behind) else none
      | none => none
    else none
  | none => none

/-- Reads the directive at a place, with the end of its line. -/
def directive? (here : Cursor) : Option (Directive × Cursor) :=
  let (name, behind) := here.advance.span isWordChar
  if !atGap behind.rest then none
  else
    let read :=
      if name == "YAML".toList then version? behind
      else if name == "TAG".toList then tagDirective? behind
      else none
    match read with
    | some (directive, behind) =>
      let behind := behind.skip isBlankChar
      let behind := if behind.rest.head? == some '#' then behind.skip (!isBreak ·) else behind
      if atLineEnd behind.rest then some (directive, behind.advance) else none
    | none => none

end ClosedLoop.Yaml
