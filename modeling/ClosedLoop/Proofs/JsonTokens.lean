import ClosedLoop.Proofs.Quotation
import ClosedLoop.Yaml.TokenStream

/-!
# Tokens of JSON

Whatever is written as JSON over several lines is a flow mapping to YAML, and its tokens are those
that the value calls for: a key and a value for each member, one scalar for whatever is no object.

* `Json.words` — the tokens of a value
* `Reads`, `At` — reading on, and where a scan stands between two tokens
* `Json.isRead` — a value is read as its tokens, by recursion over the value
* `tokens_of_object` — so is the text of a whole object
-/

namespace ClosedLoop

open Text (Decimal.digits)
open Yaml

/-! ## The tokens of a value -/

namespace Json

/-- The tokens of the name of a member. -/
def nameWords (name : String) : List TokenKind :=
  [.key, .scalar .doubleQuoted name.toList, .value]

mutual

/-- The tokens of a value. -/
def words : Json → List TokenKind
  | flag b => [.scalar .plain (if b then "true" else "false").toList]
  | number n => [.scalar .plain (Decimal.digits n)]
  | text s => [.scalar .doubleQuoted s.toList]
  | object [] => [.flowMappingStart, .flowMappingEnd]
  | object ((name, value) :: rest) =>
    .flowMappingStart :: nameWords name ++ words value ++ memberWords rest ++ [.flowMappingEnd]

/-- The tokens of members behind the first. -/
def memberWords : List (String × Json) → List TokenKind
  | [] => []
  | (name, value) :: rest => .flowEntry :: nameWords name ++ words value ++ memberWords rest

end

/-- A name of a member that YAML takes as a key without a mark. -/
def IsName (name : String) : Prop :=
  (∀ c ∈ name.toList, isPortable c = true) ∧ ((quote name).map Char.utf8Size).sum ≤ maxKeyLength

instance (name : String) : Decidable (IsName name) :=
  decidable_of_iff (name.toList.all isPortable = true ∧
    ((quote name).map Char.utf8Size).sum ≤ maxKeyLength) (and_congr_left' List.all_eq_true)

mutual

/-- All texts in a value are portable, and all names are keys. -/
def IsPortable : Json → Prop
  | flag _ | number _ => True
  | text s => ∀ c ∈ s.toList, isPortable c = true
  | object members => ArePortable members

def ArePortable : List (String × Json) → Prop
  | [] => True
  | (name, value) :: rest => IsName name ∧ IsPortable value ∧ ArePortable rest

end

end Json

/-! ## Reading on -/

/-- One step of reading on. -/
def Yaml.Scan.next? (s : Scan) : Option Scan :=
  s.readOn.bind Scan.dropStale

theorem tokensFrom_succ {s s' : Scan} (taken : s.next? = some s') (goes : s'.ended = false)
    (fuel : Nat) : tokensFrom (fuel + 1) s = tokensFrom fuel s' := by
  rw [Scan.next?] at taken
  rw [tokensFrom, taken]
  simp only [goes, Bool.false_eq_true, if_false]

/-- Reading on leads from one place to a later one, in no more steps than characters. -/
def Reads (s s' : Scan) : Prop :=
  ∃ steps, steps + s'.here.rest.length ≤ s.here.rest.length ∧
    ∀ fuel, tokensFrom (steps + fuel) s = tokensFrom fuel s'

namespace Reads

variable {s s' s'' : Scan}

theorem refl (s : Scan) : Reads s s :=
  ⟨0, Nat.le_of_eq (Nat.zero_add _), fun fuel => by rw [Nat.zero_add]⟩

theorem trans (h : Reads s s') (h' : Reads s' s'') : Reads s s'' := by
  obtain ⟨steps, long, read⟩ := h
  obtain ⟨steps', long', read'⟩ := h'
  refine ⟨steps + steps', by omega, fun fuel => ?_⟩
  rw [Nat.add_assoc, read, read']

theorem of_next (taken : s.next? = some s') (goes : s'.ended = false)
    (shorter : s'.here.rest.length < s.here.rest.length) : Reads s s' := by
  refine ⟨1, by omega, fun fuel => ?_⟩
  rw [Nat.add_comm, tokensFrom_succ taken goes]

end Reads

/-! ## White space -/

/-- White space as JSON has it between its tokens. -/
def isWhite (c : Char) : Bool :=
  c == ' ' || c == '\n'

theorem isWhite_of_mem_newLine {depth : Nat} : ∀ c ∈ Json.newLine depth, isWhite c = true := by
  intro c member
  rcases List.mem_cons.mp member with rfl | spaces
  · rfl
  · rw [(List.mem_replicate.mp spaces).2]
    rfl

/-- A character that no white space or comment begins with. -/
def isSolid (c : Char) : Bool :=
  !(isBreak c || c == ' ' || c == '\t' || c == '#' || c == '\ufeff')

namespace Yaml.Scan

theorem skipFrom_white (inFlow : Bool) {gap : List Char} (white : ∀ c ∈ gap, isWhite c = true)
    (allowed : Bool) (rest : List Char) (pos : Position) :
    ∃ allowed', (inFlow = true → allowed' = allowed) ∧
      skipFrom inFlow allowed false (gap ++ rest) pos =
        skipFrom inFlow allowed' false rest (pos.past gap) := by
  induction gap generalizing allowed pos with
  | nil => exact ⟨allowed, fun _ => rfl, rfl⟩
  | cons c gap ih =>
    have here := white c (List.mem_cons_self ..)
    have behind : ∀ d ∈ gap, isWhite d = true := fun d member =>
      white d (List.mem_cons_of_mem _ member)
    simp only [isWhite, Bool.or_eq_true, beq_iff_eq] at here
    rcases here with rfl | rfl
    · obtain ⟨allowed', same, read⟩ := ih behind allowed (pos.next ' ')
      exact ⟨allowed', same, read⟩
    · -- A break lets keys begin again, though not within flow collections.
      obtain ⟨allowed', same, read⟩ := ih behind (allowed || !inFlow) (pos.next '\n')
      refine ⟨allowed', fun flow => ?_, read⟩
      rw [same flow, flow]
      simp

theorem skipFrom_solid {inFlow allowed : Bool} {c : Char} (solid : isSolid c = true)
    (rest : List Char) (pos : Position) :
    skipFrom inFlow allowed false (c :: rest) pos = (allowed, ⟨c :: rest, pos⟩) := by
  simp only [isSolid, Bool.not_eq_true', Bool.or_eq_false_iff] at solid
  obtain ⟨⟨⟨⟨inLine, space⟩, tab⟩, hash⟩, mark⟩ := solid
  simp [skipFrom, inLine, space, tab, hash, mark]

end Yaml.Scan

theorem isWhite_of_isSolid {c : Char} (solid : isSolid c = true) : isWhite c = false := by
  simp only [isSolid, isBreak, Bool.not_eq_true', Bool.or_eq_false_iff] at solid
  rw [isWhite, solid.1.1.1.2, solid.1.1.1.1.1.1]
  rfl

/-- A text begins with this character and this rest, behind white space. -/
structure Begins (text : List Char) (c : Char) (rest : List Char) : Prop where
  solid : isSolid c = true
  text : text.dropWhile isWhite = c :: rest

namespace Begins

variable {text rest gap : List Char} {c : Char}

theorem here (solid : isSolid c = true) : Begins (c :: rest) c rest where
  solid := solid
  text := List.dropWhile_cons_of_neg (by rw [isWhite_of_isSolid solid]; exact Bool.false_ne_true)

theorem behind (h : Begins text c rest) (white : ∀ d ∈ gap, isWhite d = true) :
    Begins (gap ++ text) c rest where
  solid := h.solid
  text := by rw [List.dropWhile_append_of_pos white, h.text]

theorem cut (h : Begins text c rest) : text.takeWhile isWhite ++ c :: rest = text := by
  rw [← h.text, List.takeWhile_append_dropWhile]

theorem length_lt (h : Begins text c rest) : rest.length < text.length := by
  have shorter := (List.dropWhile_suffix (p := isWhite) (l := text)).length_le
  rw [h.text, List.length_cons] at shorter
  exact shorter

/-- In a flow collection, white space up to a token is skipped, and nothing else changes. -/
theorem skipGap {s : Scan} (h : Begins s.here.rest c rest) (flow : s.inFlow = true) :
    s.skipGap =
      { s with here := ⟨c :: rest, s.here.pos.past (s.here.rest.takeWhile isWhite)⟩ } := by
  obtain ⟨allowed, same, skipped⟩ := Scan.skipFrom_white s.inFlow
    (List.all_eq_true.mp List.all_takeWhile) s.keyAllowed (c :: rest) s.here.pos
  rw [h.cut] at skipped
  rw [Scan.skipGap, skipped, same flow, Scan.skipFrom_solid h.solid]

end Begins

/-! ## Between two tokens -/

/-- A scan between two tokens in flow collections: what tokens come before it, and how deep it is. -/
structure Flows (s : Scan) (kinds : List TokenKind) (depth : Nat) : Prop where
  kinds : s.tokens.toList.map (·.kind) = kinds
  indent : s.indent = none
  outerIndents : s.outerIndents = []
  pending : s.pending = none
  outerPending : s.outerPending = List.replicate depth none
  goes : s.ended = false

/-- A scan comes to a token in flow collections, with this text from there on. -/
structure At (s : Scan) (kinds : List TokenKind) (depth : Nat) (text : List Char) : Prop where
  rest : s.here.rest.dropWhile isWhite = text.dropWhile isWhite
  arrives : ∀ c rest, Begins text c rest → ∃ pos, s.skipGap.dropStale =
    some { s with
      here := ⟨c :: rest, pos⟩, pending := none, outerPending := List.replicate depth none }
  kinds : s.tokens.toList.map (·.kind) = kinds
  indent : s.indent = none
  outerIndents : s.outerIndents = []
  goes : s.ended = false

theorem Yaml.Scan.mapM_dropStaleKey (s : Scan) (depth : Nat) :
    (List.replicate depth none).mapM s.dropStaleKey = some (List.replicate depth none) := by
  induction depth with
  | zero => rfl
  | succ depth ih => simp [List.replicate_succ, ih, dropStaleKey]

namespace Flows

variable {s : Scan} {kinds : List TokenKind} {depth : Nat}

theorem dropStale (h : Flows s kinds depth) : s.dropStale = some s := by
  have eta : { s with pending := none, outerPending := List.replicate depth none } = s := by
    rw [← h.outerPending, ← h.pending]
  simp only [Scan.dropStale, h.pending, h.outerPending, Scan.mapM_dropStaleKey, Scan.dropStaleKey,
    eta]

theorem inFlow (h : Flows s kinds (depth + 1)) : s.inFlow = true := by
  rw [Scan.inFlow, h.outerPending]
  rfl

theorem closeBlocks (h : Flows s kinds depth) (column : Option Nat) : s.closeBlocks column = s := by
  rw [Scan.closeBlocks, h.outerIndents, Scan.closeFrom, ← h.outerIndents, ite_self]

/-- A scan that has read a token comes to the next one. -/
theorem at_ (h : Flows s kinds (depth + 1)) : At s kinds (depth + 1) s.here.rest := by
  refine ⟨rfl, ?_, h.kinds, h.indent, h.outerIndents, h.goes⟩
  intro c rest begins
  have arrived := begins.skipGap h.inFlow
  refine ⟨s.here.pos.past (s.here.rest.takeWhile isWhite), ?_⟩
  have flows : Flows s.skipGap kinds (depth + 1) := by
    rw [arrived]
    exact ⟨h.kinds, h.indent, h.outerIndents, h.pending, h.outerPending, h.goes⟩
  rw [flows.dropStale, arrived, ← h.outerPending, ← h.pending]

end Flows

namespace At

variable {s : Scan} {kinds : List TokenKind} {depth : Nat} {text rest : List Char} {c : Char}

/-- White space in front of a token is no matter. -/
theorem congr (h : At s kinds depth text) {text' : List Char}
    (same : text'.dropWhile isWhite = text.dropWhile isWhite) : At s kinds depth text' where
  rest := h.rest.trans same.symm
  arrives c rest begins := h.arrives c rest ⟨begins.solid, same ▸ begins.text⟩
  kinds := h.kinds
  indent := h.indent
  outerIndents := h.outerIndents
  goes := h.goes

theorem length_lt (h : At s kinds depth text) (begins : Begins text c rest) :
    rest.length < s.here.rest.length := by
  have begins' : Begins s.here.rest c rest := ⟨begins.solid, h.rest.trans begins.text⟩
  exact begins'.length_lt

/-- The scan at the token that it comes to. -/
theorem arrives_flows (h : At s kinds (depth + 1) text) (begins : Begins text c rest) :
    ∃ s₁, Flows s₁ kinds (depth + 1) ∧ s₁.here.rest = c :: rest ∧ s₁.keyAllowed = s.keyAllowed ∧
      s.next? = s₁.takeNext.bind Scan.dropStale := by
  obtain ⟨pos, arrived⟩ := h.arrives c rest begins
  have flows : Flows { s with
      here := ⟨c :: rest, pos⟩, pending := none
      outerPending := List.replicate (depth + 1) none } kinds (depth + 1) :=
    ⟨h.kinds, h.indent, h.outerIndents, rfl, rfl, h.goes⟩
  refine ⟨_, flows, rfl, rfl, ?_⟩
  rw [Scan.next?, Scan.readOn, arrived, Option.bind_some, flows.closeBlocks]

/-- A token is taken, and others may be put ahead of it. -/
theorem step {kinds' : List TokenKind} {depth' : Nat} (h : At s kinds (depth + 1) text)
    (begins : Begins text c rest) (fits : Scan → Prop)
    (takes : ∀ s₁, Flows s₁ kinds (depth + 1) → s₁.here.rest = c :: rest →
      s₁.keyAllowed = s.keyAllowed →
      ∃ s₂, s₁.takeNext = some s₂ ∧ Flows s₂ kinds' depth' ∧
        s₂.here.rest.length ≤ rest.length ∧ fits s₂) :
    ∃ s₂, Reads s s₂ ∧ Flows s₂ kinds' depth' ∧ fits s₂ := by
  obtain ⟨s₁, flows, here, allowed, next⟩ := h.arrives_flows begins
  obtain ⟨s₂, taken, flows', shorter, fit⟩ := takes s₁ flows here allowed
  rw [taken, Option.bind_some, flows'.dropStale] at next
  have less := Nat.lt_of_le_of_lt shorter (h.length_lt begins)
  exact ⟨s₂, .of_next next flows'.goes less, flows', fit⟩

end At

/-! ## Single tokens -/

namespace Flows

variable {s : Scan} {kinds : List TokenKind} {depth : Nat} {rest : List Char}

theorem here_take {c : Char} (here : s.here.rest = c :: rest) (kind : TokenKind) :
    (s.take 1 kind).here.rest = rest := by
  rw [Scan.take]
  show s.here.advance.rest = rest
  rw [Cursor.advance, here]

theorem take_one (h : Flows s kinds depth) (kind : TokenKind) :
    Flows (s.take 1 kind) (kinds ++ [kind]) depth where
  kinds := by
    rw [← h.kinds]
    simp [Scan.take, Scan.push]
  indent := h.indent
  outerIndents := h.outerIndents
  pending := h.pending
  outerPending := h.outerPending
  goes := h.goes

theorem forgetKey (h : Flows s kinds depth) : s.forgetKey = some s := by
  rw [Scan.forgetKey, h.pending]

/-- The beginning of a mapping that is a value. -/
theorem takeNext_open (h : Flows s kinds depth) (here : s.here.rest = '\x7b' :: rest)
    (value : s.keyAllowed = false) :
    ∃ s₂, s.takeNext = some s₂ ∧ Flows s₂ (kinds ++ [.flowMappingStart]) (depth + 1) ∧
      s₂.here.rest = rest ∧ s₂.keyAllowed = true := by
  have taken := h.take_one .flowMappingStart
  refine ⟨{ s.take 1 .flowMappingStart with
    pending := none, outerPending := s.pending :: s.outerPending, keyAllowed := true }, ?_, ?_,
    here_take here .flowMappingStart, rfl⟩
  · simp [Scan.takeNext, here, atDocumentStart, atDocumentEnd, Scan.takeFlowStart,
      Scan.rememberKey, value]
  · refine ⟨taken.kinds, taken.indent, taken.outerIndents, rfl, ?_, taken.goes⟩
    rw [h.pending, h.outerPending]
    rfl

/-- The end of a mapping. -/
theorem takeNext_close (h : Flows s kinds (depth + 1)) (here : s.here.rest = '\x7d' :: rest) :
    ∃ s₂, s.takeNext = some s₂ ∧ Flows s₂ (kinds ++ [.flowMappingEnd]) depth ∧
      s₂.here.rest = rest ∧ s₂.keyAllowed = false := by
  have taken := h.take_one .flowMappingEnd
  refine ⟨{ s.take 1 .flowMappingEnd with
    pending := none, outerPending := List.replicate depth none, keyAllowed := false }, ?_, ?_,
    here_take here .flowMappingEnd, rfl⟩
  · simp [Scan.takeNext, here, atDocumentStart, atDocumentEnd, Scan.takeFlowEnd, h.forgetKey,
      Scan.take, Scan.push, h.outerPending, List.replicate_succ]
  · exact ⟨taken.kinds, taken.indent, taken.outerIndents, rfl, rfl, taken.goes⟩

/-- The mark between two members. -/
theorem takeNext_comma (h : Flows s kinds depth) (here : s.here.rest = ',' :: rest) :
    ∃ s₂, s.takeNext = some s₂ ∧ Flows s₂ (kinds ++ [.flowEntry]) depth ∧
      s₂.here.rest = rest ∧ s₂.keyAllowed = true := by
  have taken := h.take_one .flowEntry
  refine ⟨{ s.take 1 .flowEntry with keyAllowed := true }, ?_, ?_, here_take here .flowEntry, rfl⟩
  · simp [Scan.takeNext, here, atDocumentStart, atDocumentEnd, Scan.takeFlowEntry, h.forgetKey]
  · exact ⟨taken.kinds, taken.indent, taken.outerIndents, taken.pending, taken.outerPending,
      taken.goes⟩

theorem takeNext_quote {text : String} (here : s.here.rest = Json.quote text ++ rest) :
    s.takeNext = s.takeQuoted true := by
  rw [Json.quote, List.append_assoc, List.cons_append] at here
  simp [Scan.takeNext, here, atDocumentStart, atDocumentEnd]

theorem takeNext_colon (here : s.here.rest = ':' :: rest) (flow : s.inFlow = true) :
    s.takeNext = s.takeValue := by
  simp [Scan.takeNext, here, atDocumentStart, atDocumentEnd, flow]

/-- A text that is a value. -/
theorem takeNext_text (h : Flows s kinds depth) {text : String}
    (portable : ∀ c ∈ text.toList, isPortable c = true)
    (here : s.here.rest = Json.quote text ++ rest) (value : s.keyAllowed = false) :
    ∃ s₂, s.takeNext = some s₂ ∧ Flows s₂ (kinds ++ [.scalar .doubleQuoted text.toList]) depth ∧
      s₂.here.rest = rest ∧ s₂.keyAllowed = false := by
  have read := Quoted.read_quote portable rest s.here.pos
  rw [← here] at read
  refine ⟨{ s.takeTo (.scalar .doubleQuoted text.toList)
    ⟨rest, s.here.pos.past (Json.quote text)⟩ with keyAllowed := false }, ?_, ?_, rfl, rfl⟩
  · rw [takeNext_quote here, Scan.takeQuoted, Scan.rememberKey, value]
    show (Quoted.read true s.here).map _ = _
    rw [read]
    rfl
  · refine ⟨?_, h.indent, h.outerIndents, h.pending, h.outerPending, h.goes⟩
    rw [← h.kinds]
    simp [Scan.takeTo, Scan.push]

end Flows

theorem insertIdx_length_append {α : Type} (xs ys : List α) (x : α) :
    (xs ++ ys).insertIdx xs.length x = xs ++ x :: ys := by
  induction xs with
  | nil => rfl
  | cons y xs ih => simp [ih]

/-- A key is marked as one once its colon comes. -/
theorem kinds_insert (tokens : Array Token) (token key : Token) :
    (((tokens.push token).insertIdxIfInBounds tokens.size key).toList).map (·.kind) =
      tokens.toList.map (·.kind) ++ [key.kind, token.kind] := by
  obtain ⟨list⟩ := tokens
  rw [List.push_toArray, List.insertIdxIfInBounds_toArray, List.size_toArray,
    insertIdx_length_append]
  simp

theorem Json.isInline_of_mem_quote {text : String}
    (portable : ∀ c ∈ text.toList, isPortable c = true) : ∀ c ∈ quote text, isInline c = true := by
  intro c member
  rcases List.mem_append.mp member with front | last
  · rcases List.mem_cons.mp front with rfl | inside
    · rfl
    · obtain ⟨d, among, here⟩ := List.mem_flatMap.mp inside
      exact isInline_of_mem_escape (portable d among) c here
  · rw [List.mem_singleton.mp last]
    rfl

theorem Begins.quote {gap rest : List Char} (white : ∀ d ∈ gap, isWhite d = true) (text : String) :
    Begins (gap ++ (Json.quote text ++ rest)) '"'
      (text.toList.flatMap Json.escape ++ '"' :: rest) := by
  refine .behind ?_ white
  rw [Json.quote, List.append_assoc, List.cons_append]
  exact .here rfl

/-- A scan behind the name of a member, which is pending as a key, and at the mark behind it. -/
def Yaml.Scan.named (s : Scan) (name : String) (rest : List Char) : Scan :=
  { s.takeTo (.scalar .doubleQuoted name.toList)
      ⟨':' :: rest, s.here.pos.past (Json.quote name)⟩ with
    pending := some ⟨s.tokens.size, false, s.here.pos⟩
    keyAllowed := false }

namespace Flows

variable {s : Scan} {kinds : List TokenKind} {depth : Nat} {rest : List Char} {name : String}

theorem takeNext_name (h : Flows s kinds (depth + 1)) (isName : Json.IsName name)
    (here : s.here.rest = Json.quote name ++ ':' :: rest) (key : s.keyAllowed = true) :
    s.takeNext = some (s.named name rest) := by
  have read := Quoted.read_quote isName.1 (':' :: rest) s.here.pos
  rw [← here] at read
  rw [takeNext_quote here, Scan.takeQuoted, Scan.rememberKey, if_pos key, h.forgetKey,
    Option.map_some, Option.bind_some, h.inFlow]
  show (Quoted.read true s.here).map _ = _
  rw [read]
  rfl

/-- A name is no longer than a key may be, so it is still pending at the mark behind it. -/
theorem dropStale_named (h : Flows s kinds depth) (isName : Json.IsName name) :
    (s.named name rest).dropStale = some (s.named name rest) := by
  -- A key goes stale on the next line or by its length, and the name stands in one line.
  have behind := Position.past_of_inLine s.here.pos fun c member =>
    isBreak_of_isInline (Json.isInline_of_mem_quote isName.1 c member)
  have short : ¬s.here.pos.offset + maxKeyLength <
      s.here.pos.offset + ((Json.quote name).map Char.utf8Size).sum :=
    Nat.not_lt.mpr (Nat.add_le_add_left isName.2 _)
  have kept : (s.named name rest).dropStaleKey (s.named name rest).pending =
      some (s.named name rest).pending := by
    simp [Scan.dropStaleKey, Scan.named, Scan.isStale, Scan.takeTo, behind, short]
  have outer : (s.named name rest).outerPending = List.replicate depth none := h.outerPending
  have eta : { s.named name rest with
      pending := (s.named name rest).pending, outerPending := List.replicate depth none } =
        s.named name rest := by
    rw [← outer]
  simp only [Scan.dropStale, kept, outer, Scan.mapM_dropStaleKey, eta]

/-- The mark behind the name of a member makes it a key. -/
theorem next?_named (h : Flows s kinds (depth + 1)) (isName : Json.IsName name) :
    ∃ s₂, (s.named name rest).next? = some s₂ ∧
      Flows s₂ (kinds ++ Json.nameWords name) (depth + 1) ∧ s₂.here.rest = rest ∧
      s₂.keyAllowed = false := by
  have still : (s.named name rest).skipGap = s.named name rest := by
    simp only [Scan.skipGap, Scan.named, Scan.takeTo, Scan.push, Scan.skipFrom_solid (c := ':') rfl]
  have flow : (s.named name rest).inFlow = true := h.inFlow
  have keyed := kinds_insert s.tokens ⟨.scalar .doubleQuoted name.toList, s.here.pos,
    s.here.pos.past (Json.quote name)⟩ ⟨.key, s.here.pos, s.here.pos⟩
  rw [h.kinds] at keyed
  let s₁ : Scan := { s.named name rest with
    tokens := (s.named name rest).tokens.insertIdxIfInBounds s.tokens.size
      ⟨.key, s.here.pos, s.here.pos⟩
    pending := none }
  have flows : Flows s₁ (kinds ++ [.key, .scalar .doubleQuoted name.toList]) (depth + 1) :=
    ⟨keyed, h.indent, h.outerIndents, rfl, h.outerPending, h.goes⟩
  have taken := flows.take_one .value
  have flows' : Flows { s₁.take 1 .value with keyAllowed := false }
      (kinds ++ Json.nameWords name) (depth + 1) := by
    refine ⟨?_, taken.indent, taken.outerIndents, taken.pending, taken.outerPending, taken.goes⟩
    rw [taken.kinds, List.append_assoc]
    rfl
  refine ⟨_, ?_, flows', here_take rfl .value, rfl⟩
  rw [Scan.next?, Scan.readOn, still, h.dropStale_named isName, Option.bind_some,
    Scan.closeBlocks, if_pos flow, takeNext_colon rfl flow, Scan.takeValue]
  show (some { (Scan.openBlock s₁ s.here.pos.column (some s.tokens.size) .blockMappingStart
    s.here.pos).take 1 .value with keyAllowed := false }).bind _ = _
  rw [Scan.openBlock, if_pos (by rw [flows.inFlow]; rfl), Option.bind_some, flows'.dropStale]

end Flows

/-- The name of a member and the mark behind it. -/
theorem At.name {s : Scan} {kinds : List TokenKind} {depth : Nat} {gap rest : List Char}
    {name : String} (h : At s kinds (depth + 1) (gap ++ (Json.quote name ++ ':' :: rest)))
    (white : ∀ d ∈ gap, isWhite d = true) (isName : Json.IsName name)
    (key : s.keyAllowed = true) :
    ∃ s₂, Reads s s₂ ∧ Flows s₂ (kinds ++ Json.nameWords name) (depth + 1) ∧
      s₂.here.rest = rest ∧ s₂.keyAllowed = false := by
  obtain ⟨s₁, flows, here, allowed, next⟩ := h.arrives_flows (.quote white name)
  have here' : s₁.here.rest = Json.quote name ++ ':' :: rest := by
    rw [here, Json.quote, List.append_assoc, List.cons_append]
    rfl
  rw [flows.takeNext_name isName here' (allowed.trans key), Option.bind_some,
    flows.dropStale_named isName] at next
  obtain ⟨s₂, next', flows', rest', value⟩ := flows.next?_named isName
  have first : Reads s (s₁.named name rest) := by
    refine .of_next next flows.goes (Nat.lt_of_le_of_lt ?_ (h.length_lt (.quote white name)))
    show (':' :: rest).length ≤ _
    simp only [List.length_append, List.length_cons]
    omega
  refine ⟨s₂, first.trans (.of_next next' flows'.goes ?_), flows', rest', value⟩
  rw [rest']
  exact Nat.lt_succ_self _

/-! ## Plain scalars -/

/-- What ends an entry of a mapping: the mark of the next one or of the end, behind white space. -/
def EndsEntry (text : List Char) : Prop :=
  ∃ c rest, Begins text c rest ∧ (c = ',' ∨ c = '\x7d')

/-- Characters differ where a test tells them apart. -/
theorem ne_of_test {test : Char → Bool} {c d : Char} (passed : test c = true)
    (failed : test d = false) : c ≠ d := by
  rintro rfl
  rw [passed] at failed
  cases failed

namespace Yaml.Plain

variable (column : Nat) (text : List Char) (stop : Position)

theorem readFrom_word {cs : List Char} (word : ∀ c ∈ cs, c.isAlphanum = true)
    (rest : List Char) (pos : Position) :
    ∃ stop', readFrom true column text stop .none (cs ++ rest) pos =
      readFrom true column (cs.reverse ++ text) stop' .none rest (pos.past cs) := by
  induction cs generalizing text stop pos with
  | nil => exact ⟨stop, rfl⟩
  | cons c cs ih =>
    have first := word c (List.mem_cons_self ..)
    have other {d : Char} (mark : d.isAlphanum = false) := ne_of_test first mark
    obtain ⟨stop', read⟩ := ih (c :: text) (pos.next c)
      (fun d member => word d (List.mem_cons_of_mem _ member)) (pos.next c)
    refine ⟨stop', ?_⟩
    rw [List.reverse_cons, List.append_assoc]
    refine Eq.trans ?_ read
    simp [readFrom, isBlankChar, isBreak, isFlowMark, Gap.isNone, Gap.text, other]

/-- A plain scalar of a flow mapping ends where the entry does. -/
theorem readFrom_end {gap : List Char} (white : ∀ d ∈ gap, isWhite d = true) {c : Char}
    (mark : c = ',' ∨ c = '\x7d') (before : Gap) (rest : List Char) (pos : Position) :
    ∃ broken pos', readFrom true column text stop before (gap ++ c :: rest) pos =
      some ⟨text.reverse, stop, broken, ⟨c :: rest, pos'⟩⟩ := by
  induction gap generalizing before pos with
  | nil =>
    refine ⟨before.isAcross, pos, ?_⟩
    rcases mark with rfl | rfl <;>
      simp [readFrom, isBlankChar, isBreak, atDocumentStart, atDocumentEnd, isFlowMark]
  | cons d gap ih =>
    have here := white d (List.mem_cons_self ..)
    simp only [isWhite, Bool.or_eq_true, beq_iff_eq] at here
    obtain ⟨broken, pos', read⟩ := ih (fun e member => white e (List.mem_cons_of_mem _ member))
      (before.add d) (pos.next d)
    refine ⟨broken, pos', ?_⟩
    rw [List.cons_append, readFrom, if_pos (by rcases here with rfl | rfl <;> rfl),
      if_neg (by rcases here with rfl | rfl <;> simp)]
    exact read

end Yaml.Plain

theorem beginsPlain_of_isAlphanum {c : Char} (word : c.isAlphanum = true) (rest : List Char) :
    Scan.beginsPlain true c rest = true := by
  have other {d : Char} (mark : d.isAlphanum = false) := ne_of_test word mark
  simp [Scan.beginsPlain, Scan.isMark, isBlankChar, isBreak, other]

/-- A word that is a value, be it a number or a truth value. -/
theorem Flows.takeNext_word {s : Scan} {kinds : List TokenKind} {depth : Nat} {c : Char}
    {cs tail : List Char} (h : Flows s kinds (depth + 1))
    (word : ∀ d ∈ c :: cs, d.isAlphanum = true) (ends : EndsEntry tail)
    (here : s.here.rest = c :: cs ++ tail) (value : s.keyAllowed = false) :
    ∃ s₂, s.takeNext = some s₂ ∧ Flows s₂ (kinds ++ [.scalar .plain (c :: cs)]) (depth + 1) ∧
      s₂.here.rest.dropWhile isWhite = tail.dropWhile isWhite ∧
      s₂.here.rest.length ≤ tail.length := by
  have first := word c (List.mem_cons_self ..)
  have other {d : Char} (mark : d.isAlphanum = false) := ne_of_test first mark
  have unmarked (more : List Char) :
      atDocumentStart (c :: more) = false ∧ atDocumentEnd (c :: more) = false := by
    constructor
    · unfold atDocumentStart
      split
      · next same => exact absurd (List.cons.inj same).1 (other rfl)
      · rfl
    · unfold atDocumentEnd
      split
      · next same => exact absurd (List.cons.inj same).1 (other rfl)
      · rfl
  -- A word begins neither a mark of the document nor any other token.
  have taken : s.takeNext = s.takePlain := by
    simp [Scan.takeNext, here, unmarked, other, h.inFlow, beginsPlain_of_isAlphanum first]
  obtain ⟨d, rest, begins, mark⟩ := ends
  obtain ⟨stop, read⟩ := Plain.readFrom_word 0 [] s.here.pos word tail s.here.pos
  obtain ⟨broken, pos, ended⟩ := Plain.readFrom_end 0 ((c :: cs).reverse ++ []) stop
    (List.all_eq_true.mp List.all_takeWhile) mark .none rest (s.here.pos.past (c :: cs))
  rw [begins.cut] at ended
  rw [ended, ← here, List.append_nil, List.reverse_reverse] at read
  refine ⟨{ s.push (.scalar .plain (c :: cs)) s.here.pos stop with
    here := ⟨d :: rest, pos⟩, keyAllowed := broken }, ?_, ?_, ?_, begins.length_lt⟩
  · rw [taken, Scan.takePlain, Scan.rememberKey, value]
    simp only [Bool.false_eq_true, if_false, Option.bind_some, h.inFlow, h.indent, Plain.read, read,
      Option.map_some]
  · refine ⟨?_, h.indent, h.outerIndents, h.pending, h.outerPending, h.goes⟩
    rw [← h.kinds]
    simp [Scan.push]
  · rw [begins.text]
    exact (Begins.here begins.solid).text

/-! ## Values and members -/

theorem isAlphanum_of_mem_digits (n : Nat) : ∀ c ∈ Decimal.digits n, c.isAlphanum = true := by
  intro c member
  rw [Char.isAlphanum, Text.Decimal.isDigit_of_mem_digits n c member, Bool.or_true]

theorem isSolid_of_isAlphanum {c : Char} (word : c.isAlphanum = true) : isSolid c = true := by
  have other {d : Char} (mark : d.isAlphanum = false) := ne_of_test word mark
  simp [isSolid, isBreak, other]

theorem EndsEntry.of_mark {gap : List Char} (white : ∀ d ∈ gap, isWhite d = true) {c : Char}
    (mark : c = ',' ∨ c = '\x7d') (rest : List Char) : EndsEntry (gap ++ c :: rest) := by
  refine ⟨c, rest, .behind (.here ?_) white, mark⟩
  rcases mark with rfl | rfl <;> rfl

namespace Json

/-- A value is read as its tokens wherever a value stands and something ends it. -/
def IsRead (value : Json) : Prop :=
  ∀ (level : Nat) {s : Scan} {kinds : List TokenKind} {depth : Nat} {tail : List Char},
    EndsEntry tail → At s kinds (depth + 1) (value.chars level ++ tail) → s.keyAllowed = false →
      ∃ s', Reads s s' ∧ At s' (kinds ++ value.words) (depth + 1) tail

/-- Members behind the first are read as their tokens. -/
def AreRead (members : List (String × Json)) : Prop :=
  ∀ (level : Nat) {s : Scan} {kinds : List TokenKind} {depth : Nat} {tail : List Char},
    EndsEntry tail → At s kinds (depth + 1) (memberChars level members ++ tail) →
      ∃ s', Reads s s' ∧ At s' (kinds ++ memberWords members) (depth + 1) tail

theorem endsEntry_members (level : Nat) (members : List (String × Json)) {tail : List Char}
    (ends : EndsEntry tail) : EndsEntry (memberChars level members ++ tail) := by
  cases members with
  | nil => rwa [memberChars]
  | cons member rest =>
    rw [memberChars]
    exact .of_mark (List.forall_mem_nil _) (.inl rfl) _

section

variable {s : Scan} {kinds : List TokenKind} {depth : Nat} {tail : List Char}

theorem isRead_word {value : Json} (c : Char) (cs : List Char)
    (chars : ∀ level, value.chars level = c :: cs)
    (words : value.words = [.scalar .plain (c :: cs)])
    (word : ∀ d ∈ c :: cs, d.isAlphanum = true) : value.IsRead := by
  intro level s kinds depth tail ends h allowed
  rw [chars] at h
  have begins : Begins (c :: cs ++ tail) c (cs ++ tail) :=
    .here (isSolid_of_isAlphanum (word c (List.mem_cons_self ..)))
  obtain ⟨s', reads, flows, same⟩ := h.step begins
    (fun s' => s'.here.rest.dropWhile isWhite = tail.dropWhile isWhite)
    fun s₁ flows here allowed' => by
      obtain ⟨s₂, taken, flows', same, shorter⟩ :=
        flows.takeNext_word word ends here (allowed'.trans allowed)
      exact ⟨s₂, taken, flows', Nat.le_trans shorter (by simp), same⟩
  rw [words]
  exact ⟨s', reads, flows.at_.congr same.symm⟩

theorem isRead_text {text : String} (portable : ∀ c ∈ text.toList, isPortable c = true) :
    (Json.text text).IsRead := by
  intro level s kinds depth tail ends h allowed
  rw [chars] at h
  obtain ⟨s', reads, flows, rest⟩ := h.step (.quote (List.forall_mem_nil _) text)
    (fun s' => s'.here.rest = tail) fun s₁ flows here allowed' => by
      have here' : s₁.here.rest = quote text ++ tail := by
        rw [here, quote, List.append_assoc, List.cons_append]
        rfl
      obtain ⟨s₂, taken, flows', rest, _⟩ :=
        flows.takeNext_text portable here' (allowed'.trans allowed)
      refine ⟨s₂, taken, flows', ?_, rest⟩
      rw [rest, List.length_append, List.length_cons]
      omega
  rw [words]
  exact ⟨s', reads, rest ▸ flows.at_⟩

/-- A member: its name as a key, and its value. -/
theorem IsRead.member {name : String} {value : Json} (isRead : value.IsRead) (isName : IsName name)
    {gap : List Char} (white : ∀ d ∈ gap, isWhite d = true) (level : Nat) (ends : EndsEntry tail)
    (h : At s kinds (depth + 1)
      (gap ++ (quote name ++ ':' :: ' ' :: (value.chars level ++ tail))))
    (key : s.keyAllowed = true) :
    ∃ s', Reads s s' ∧ At s' (kinds ++ nameWords name ++ value.words) (depth + 1) tail := by
  obtain ⟨s₁, first, flows, rest, allowed⟩ := h.name white isName key
  have behind : At s₁ (kinds ++ nameWords name) (depth + 1) (value.chars level ++ tail) :=
    flows.at_.congr (by rw [rest]; rfl)
  obtain ⟨s₂, second, here⟩ := isRead level ends behind allowed
  exact ⟨s₂, first.trans second, here⟩

/-- The mark between two members, and the member behind it. -/
theorem IsRead.cons {name : String} {value : Json} {rest : List (String × Json)}
    (isRead : value.IsRead) (isName : IsName name) (areRead : AreRead rest) :
    AreRead ((name, value) :: rest) := by
  intro level s kinds depth tail ends h
  let more := newLine level ++
    (quote name ++ ':' :: ' ' :: (value.chars level ++ (memberChars level rest ++ tail)))
  have text : memberChars level ((name, value) :: rest) ++ tail = ',' :: more := by
    simp [memberChars, more]
  rw [text] at h
  obtain ⟨s₁, comma, flows, here, key⟩ := h.step (.here rfl)
    (fun s' => s'.here.rest = more ∧ s'.keyAllowed = true)
    fun s₁ flows here _ => by
      obtain ⟨s₂, taken, flows', rest, key⟩ := flows.takeNext_comma here
      exact ⟨s₂, taken, flows', Nat.le_of_eq (by rw [rest]), rest, key⟩
  obtain ⟨s₂, member, behind⟩ := isRead.member isName (fun _ => isWhite_of_mem_newLine _) level
    (endsEntry_members level rest ends) (here ▸ flows.at_) key
  obtain ⟨s₃, others, last⟩ := areRead level ends behind
  refine ⟨s₃, (comma.trans member).trans others, ?_⟩
  simpa [memberWords] using last

/-- What stands behind the beginning of an object that has members. -/
def bodyChars (level : Nat) (name : String) (value : Json) (rest : List (String × Json)) :
    List Char :=
  newLine (level + 1) ++ (quote name ++ ':' :: ' ' :: (value.chars (level + 1) ++
    (memberChars (level + 1) rest ++ (newLine level ++ ['\x7d']))))

/-- The tokens of the members of an object and of its end. -/
def bodyWords (name : String) (value : Json) (rest : List (String × Json)) : List TokenKind :=
  nameWords name ++ value.words ++ memberWords rest ++ [.flowMappingEnd]

theorem reads_body {name : String} {value : Json} {rest : List (String × Json)} (level : Nat)
    (isRead : value.IsRead) (isName : IsName name) (areRead : AreRead rest)
    (h : At s kinds (depth + 1) (bodyChars level name value rest ++ tail))
    (key : s.keyAllowed = true) :
    ∃ s', Reads s s' ∧ Flows s' (kinds ++ bodyWords name value rest) depth ∧
      s'.here.rest = tail := by
  have close : EndsEntry (newLine level ++ '\x7d' :: tail) :=
    .of_mark (fun _ => isWhite_of_mem_newLine _) (.inr rfl) tail
  have text : bodyChars level name value rest ++ tail =
      newLine (level + 1) ++ (quote name ++ ':' :: ' ' :: (value.chars (level + 1) ++
        (memberChars (level + 1) rest ++ (newLine level ++ '\x7d' :: tail)))) := by
    simp [bodyChars]
  rw [text] at h
  obtain ⟨s₁, member, behind⟩ := isRead.member isName (fun _ => isWhite_of_mem_newLine _) _
    (endsEntry_members _ rest close) h key
  obtain ⟨s₂, others, last⟩ := areRead _ close behind
  obtain ⟨s₃, ending, flows, here⟩ := last.step
    (.behind (.here rfl) fun _ => isWhite_of_mem_newLine _) (fun s' => s'.here.rest = tail)
    fun s₁ flows here _ => by
      obtain ⟨s₂, taken, flows', rest, _⟩ := flows.takeNext_close here
      exact ⟨s₂, taken, flows', Nat.le_of_eq (by rw [rest]), rest⟩
  refine ⟨s₃, (member.trans others).trans ending, ?_, here⟩
  simpa [bodyWords] using flows

/-- An object as a value. -/
theorem IsRead.object {name : String} {value : Json} {rest : List (String × Json)}
    (isRead : value.IsRead) (isName : IsName name) (areRead : AreRead rest) :
    (object ((name, value) :: rest)).IsRead := by
  intro level s kinds depth tail ends h allowed
  have text : (Json.object ((name, value) :: rest)).chars level ++ tail =
      '\x7b' :: (bodyChars level name value rest ++ tail) := by
    simp [chars, bodyChars]
  rw [text] at h
  obtain ⟨s₁, start, flows, here, key⟩ := h.step (.here rfl)
    (fun s' => s'.here.rest = bodyChars level name value rest ++ tail ∧ s'.keyAllowed = true)
    fun s₁ flows here allowed' => by
      obtain ⟨s₂, taken, flows', rest, key⟩ := flows.takeNext_open here (allowed'.trans allowed)
      exact ⟨s₂, taken, flows', Nat.le_of_eq (by rw [rest]), rest, key⟩
  obtain ⟨s₂, body, flows', here'⟩ :=
    reads_body level isRead isName areRead (here ▸ flows.at_) key
  refine ⟨s₂, start.trans body, here' ▸ ?_⟩
  simpa [words, bodyWords] using flows'.at_

/-- An object without members as a value. -/
theorem isRead_empty : (object []).IsRead := by
  intro level s kinds depth tail ends h allowed
  rw [chars] at h
  obtain ⟨s₁, start, flows, here⟩ := h.step (.here rfl)
    (fun s' => s'.here.rest = '\x7d' :: tail) fun s₁ flows here allowed' => by
      obtain ⟨s₂, taken, flows', rest, _⟩ := flows.takeNext_open here (allowed'.trans allowed)
      exact ⟨s₂, taken, flows', Nat.le_of_eq (by rw [rest]), rest⟩
  obtain ⟨s₂, ending, flows', here'⟩ := (here ▸ flows.at_).step (.here rfl)
    (fun s' => s'.here.rest = tail) fun s₁ flows here _ => by
      obtain ⟨s₂, taken, flows', rest, _⟩ := flows.takeNext_close here
      exact ⟨s₂, taken, flows', Nat.le_of_eq (by rw [rest]), rest⟩
  refine ⟨s₂, start.trans ending, here' ▸ ?_⟩
  simpa [words] using flows'.at_

end

mutual

/-- A value whose texts are portable is read as its tokens. -/
theorem isRead : (value : Json) → value.IsPortable → value.IsRead
  | flag b, _ => by
    cases b with
    | true => exact isRead_word _ _ (fun _ => rfl) (by rw [words]; rfl) (List.all_eq_true.mp rfl)
    | false => exact isRead_word _ _ (fun _ => rfl) (by rw [words]; rfl) (List.all_eq_true.mp rfl)
  | number n, _ => by
    obtain ⟨c, cs, digits⟩ := List.exists_cons_of_ne_nil (Text.Decimal.digits_ne_nil n)
    refine isRead_word c cs (fun _ => ?_) ?_ (digits ▸ isAlphanum_of_mem_digits n)
    · rw [chars, digits]
    · rw [words, digits]
  | text s, portable => isRead_text portable
  | object [], _ => isRead_empty
  | object ((_, value) :: rest), portable =>
    (isRead value portable.2.1).object portable.1 (areRead rest portable.2.2)

theorem areRead : (members : List (String × Json)) → ArePortable members → AreRead members
  | [], _ => by
    intro level s kinds depth tail ends h
    exact ⟨s, .refl s, by simpa [memberWords, memberChars] using h⟩
  | (_, value) :: rest, portable =>
    (isRead value portable.2.1).cons portable.1 (areRead rest portable.2.2)

end

end Json

/-! ## Whole texts -/

namespace Yaml

theorem Position.line_le_past (pos : Position) (cs : List Char) :
    pos.line ≤ (pos.past cs).line := by
  induction cs generalizing pos with
  | nil => exact Nat.le_refl _
  | cons c cs ih =>
    refine Nat.le_trans ?_ (ih (pos.next c))
    rw [Position.next]
    split <;> simp

/-- The outermost mapping begins where a key might, which the line behind it shows to be none. -/
theorem Scan.at_of_opened {text : List Char} {kinds : List TokenKind} {s : Scan} {key : PendingKey}
    (rest : s.here.rest = '\n' :: text) (kinds_eq : s.tokens.toList.map (·.kind) = kinds)
    (indent : s.indent = none) (outerIndents : s.outerIndents = [])
    (pending : s.pending = none) (outerPending : s.outerPending = [some key])
    (free : key.required = false) (line : key.start.line ≤ s.here.pos.line)
    (goes : s.ended = false) : At s kinds 1 s.here.rest := by
  refine ⟨rfl, ?_, kinds_eq, indent, outerIndents, goes⟩
  intro c rest' begins
  have flow : s.inFlow = true := by
    rw [Scan.inFlow, outerPending]
    rfl
  have gap : s.here.rest.takeWhile isWhite = '\n' :: text.takeWhile isWhite := by
    rw [rest]
    rfl
  have below : key.start.line < (s.here.pos.past ('\n' :: text.takeWhile isWhite)).line :=
    Nat.lt_of_le_of_lt line (Position.line_le_past (s.here.pos.next '\n') _)
  refine ⟨s.here.pos.past (s.here.rest.takeWhile isWhite), ?_⟩
  rw [begins.skipGap flow, gap]
  simp only [Scan.dropStale, pending, outerPending, List.mapM_cons, List.mapM_nil,
    Scan.dropStaleKey, Scan.isStale, decide_eq_true below, Bool.true_or, if_true, free,
    Bool.false_eq_true, if_false]
  rfl

end Yaml

namespace Flows

variable {s : Scan} {kinds : List TokenKind}

/-- The end of the document behind its outermost mapping. -/
theorem next?_end (h : Flows s kinds 0) (white : ∀ d ∈ s.here.rest, isWhite d = true) :
    ∃ s', s.next? = some s' ∧ s'.ended = true ∧
      s'.tokens.toList.map (·.kind) = kinds ++ [.streamEnd] := by
  obtain ⟨allowed, -, skipped⟩ := Scan.skipFrom_white s.inFlow white s.keyAllowed [] s.here.pos
  rw [List.append_nil] at skipped
  let pos := s.here.pos.past s.here.rest
  let s₁ : Scan := { s with here := ⟨[], pos⟩, keyAllowed := allowed }
  have arrived : s.skipGap = s₁ := by
    rw [Scan.skipGap, skipped]
    rfl
  have flows : Flows s₁ kinds 0 :=
    ⟨h.kinds, h.indent, h.outerIndents, h.pending, h.outerPending, h.goes⟩
  let last := if pos.column = 0 then pos else { pos with line := pos.line + 1, column := 0 }
  let s₂ : Scan := { s₁ with here := ⟨[], last⟩ }
  have flows' : Flows s₂ kinds 0 :=
    ⟨h.kinds, h.indent, h.outerIndents, h.pending, h.outerPending, h.goes⟩
  let s₃ : Scan := { s₂.push .streamEnd last last with keyAllowed := false, ended := true }
  have taken : s₁.takeNext = some s₃ := by
    show ((s₂.closeBlocks none).forgetKey.map fun s =>
      { s.push .streamEnd last last with keyAllowed := false, ended := true }) = _
    rw [flows'.closeBlocks, flows'.forgetKey]
    rfl
  have kept : s₃.dropStale = some s₃ := by
    have pending : s₃.pending = none := h.pending
    have outerPending : s₃.outerPending = [] := h.outerPending
    simp only [Scan.dropStale, pending, outerPending, Scan.dropStaleKey, List.mapM_nil]
    rw [← pending, ← outerPending]
    rfl
  refine ⟨s₃, ?_, rfl, ?_⟩
  · rw [Scan.next?, Scan.readOn, arrived, flows.dropStale, Option.bind_some, flows.closeBlocks,
      taken, Option.bind_some, kept]
  · rw [← h.kinds]
    simp [s₃, s₂, s₁, Scan.push]

theorem tokensFrom_end (h : Flows s kinds 0) (white : ∀ d ∈ s.here.rest, isWhite d = true)
    (fuel : Nat) : ∃ tokens, tokensFrom (fuel + 1) s = ⟨tokens, true⟩ ∧
      tokens.map (·.kind) = kinds ++ [.streamEnd] := by
  obtain ⟨s', taken, ended, kinds'⟩ := h.next?_end white
  refine ⟨s'.tokens.toList, ?_, kinds'⟩
  rw [Scan.next?] at taken
  rw [tokensFrom, taken]
  simp only [ended, if_true]

end Flows

/-- The text of an object that has members holds its tokens and the end of the document. -/
theorem tokens_of_object {name : String} {value : Json} {rest : List (String × Json)}
    (portable : (Json.object ((name, value) :: rest)).IsPortable) {tail : List Char}
    (white : ∀ d ∈ tail, isWhite d = true) :
    ∃ tokens,
      TokenStream.ofText ((Json.object ((name, value) :: rest)).chars 0 ++ tail) = ⟨tokens, true⟩ ∧
      tokens.map (·.kind) = (Json.object ((name, value) :: rest)).words ++ [.streamEnd] := by
  let body := Json.bodyChars 0 name value rest ++ tail
  have text : (Json.object ((name, value) :: rest)).chars 0 ++ tail = '\x7b' :: body := by
    simp [Json.chars, Json.bodyChars, body]
  let s : Scan := { here := ⟨'\x7b' :: body, {}⟩ }
  let s₁ : Scan := {
    here := ⟨body, Position.next {} '\x7b'⟩
    tokens := #[⟨.flowMappingStart, {}, Position.next {} '\x7b'⟩]
    outerPending := [some ⟨0, false, {}⟩] }
  -- Only the outermost brace stands where a key might, and is remembered as one.
  have taken : s.next? = some s₁ := rfl
  have opened : At s₁ [.flowMappingStart] 1 body :=
    Scan.at_of_opened rfl rfl rfl rfl rfl rfl rfl (Nat.le_refl _) rfl
  have first : Reads s s₁ := .of_next taken rfl (Nat.lt_succ_self _)
  obtain ⟨s₂, inside, flows, here⟩ := Json.reads_body 0 (Json.isRead value portable.2.1) portable.1
    (Json.areRead rest portable.2.2) opened rfl
  obtain ⟨steps, long, read⟩ := first.trans inside
  obtain ⟨tokens, ended, kinds⟩ :=
    flows.tokensFrom_end (here ▸ white) (('\x7b' :: body).length - steps)
  refine ⟨tokens, ?_, ?_⟩
  · -- Each step so far has used up a character, so there is fuel for the end.
    have enough : ('\x7b' :: body).length + 1 = steps + (('\x7b' :: body).length - steps + 1) := by
      have : steps ≤ ('\x7b' :: body).length := Nat.le_trans (Nat.le_add_right ..) long
      omega
    rw [TokenStream.ofText, text, enough, read, ended]
  · rw [kinds]
    simp [Json.words, Json.bodyWords]

end ClosedLoop
