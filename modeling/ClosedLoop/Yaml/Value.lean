import ClosedLoop.Text.Binary64
import ClosedLoop.Yaml.Event

/-!
# Values of scalars

What a plain scalar without a tag says: nothing, a truth value, a number or a text. Integers are
written in decimal without zeros in front, or in base 16, 8 or 2 behind `0x`, `0o` and `0b`; what is
neither that nor a decimal fraction is a text. A tag of the standard kinds asks for one of them.
-/

namespace ClosedLoop.Yaml

/-- What a scalar says. -/
inductive Value where
  | unit
  | bool (b : Bool)
  | integer (n : Int)
  /-- An integer that needs more than 64 bits. -/
  | wide (n : Int)
  | float (text : List Char)
  | string (text : List Char)
  deriving DecidableEq, Repr

/-! ## Truth values and nothing -/

def bool? (cs : List Char) : Option Bool :=
  if ["true", "True", "TRUE"].any (·.toList == cs) then some true
  else if ["false", "False", "FALSE"].any (·.toList == cs) then some false
  else none

def isNull (cs : List Char) : Bool :=
  ["null", "Null", "NULL", "~"].any (·.toList == cs)

/-! ## Integers -/

def isSign (c : Char) : Bool :=
  c == '+' || c == '-'

/-- Digits that no number begins with: more than one, and a zero first. -/
def isZeroPadded (cs : List Char) : Bool :=
  let digits :=
    match cs with
    | c :: rest => if isSign c then rest else cs
    | [] => []
  match digits with
  | '0' :: d :: rest => (d :: rest).all Char.isDigit
  | _ => false

/-- The base that a letter behind a zero stands for. -/
def base? : Char → Option Nat
  | 'x' => some 16
  | 'o' => some 8
  | 'b' => some 2
  | _ => none

/-- Reads an integer in the base of its letter. -/
def based? (cs : List Char) : Option Nat :=
  match cs with
  | '0' :: letter :: rest => (base? letter).bind (Text.Decimal.read? · rest)
  | _ => none

/-- Reads an integer that is not negative: below `bound`, with a plus sign or none. -/
def unsigned? (bound : Nat) (cs : List Char) : Option Nat :=
  let digits := if cs.head? == some '+' then cs.tail else cs
  match based? digits with
  | some n => if n < bound then some n else none
  | none =>
    if isZeroPadded cs then none
    else
      match Text.Decimal.read? 10 digits with
      | some n => if n < bound then some n else none
      | none => none

/-- Reads a negative integer, or a zero with a minus sign: not below `-bound`. -/
def negative? (bound : Nat) (cs : List Char) : Option Int :=
  match cs with
  | '-' :: digits =>
    match based? digits with
    | some n => if n ≤ bound then some (-n) else none
    | none =>
      if isZeroPadded cs then none
      else
        match Text.Decimal.read? 10 digits with
        | some n => if n ≤ bound then some (-n) else none
        | none => none
  | _ => none

/-- Reads an integer of up to 64 bits, else one of up to 128. -/
def integer? (cs : List Char) : Option Value :=
  let size := UInt64.size
  match unsigned? size cs, negative? (size / 2) cs, unsigned? (size * size) cs,
      negative? (size * size / 2) cs with
  | some n, _, _, _ => some (.integer n)
  | _, some n, _, _ => some (.integer n)
  | _, _, some n, _ => some (.wide n)
  | _, _, _, some n => some (.wide n)
  | _, _, _, _ => none

/-! ## Fractions -/

/-- Reads an exponent behind its letter; nothing is the exponent zero. -/
def exponent? (cs : List Char) : Option Int :=
  match cs with
  | [] => some 0
  | c :: rest =>
    if c == 'e' || c == 'E' then
      match rest with
      | '-' :: digits => (Text.Decimal.read? 10 digits).map fun n => -(n : Int)
      | '+' :: digits => (Text.Decimal.read? 10 digits).map fun n => (n : Int)
      | digits => (Text.Decimal.read? 10 digits).map fun n => (n : Int)
    else none

/-- Reads a decimal fraction without a sign: digits around a point, and an exponent. -/
def fraction? (cs : List Char) : Option (Nat × Int) :=
  let (whole, rest) := (cs.takeWhile Char.isDigit, cs.dropWhile Char.isDigit)
  let (part, rest) :=
    match rest with
    | '.' :: more => (more.takeWhile Char.isDigit, more.dropWhile Char.isDigit)
    | _ => ([], rest)
  match Text.Decimal.read? 10 (whole ++ part), exponent? rest with
  | some digits, some power => some (digits, power - part.length)
  | _, _ => none

/-- The text of a number that 64 bits hold, with a point in it. -/
def floatText? (isNegative : Bool) (cs : List Char) : Option (List Char) :=
  (fraction? cs).bind fun (digits, power) =>
    (Text.Binary64.ofDecimal? digits power).map fun x =>
      let text := (if isNegative then ['-'] else []) ++ x.text
      if text.contains '.' then text else text ++ ['.', '0']

def isInfinity (cs : List Char) : Bool :=
  [".inf", ".Inf", ".INF"].any (·.toList == cs)

def isNotANumber (cs : List Char) : Bool :=
  [".nan", ".NaN", ".NAN"].any (·.toList == cs)

/-- Reads a decimal fraction, an infinity or the value that is no number. -/
def float? (cs : List Char) : Option Value :=
  if isNotANumber cs then some (.float "NaN".toList)
  else
    match cs with
    | '-' :: rest =>
      if isInfinity rest then some (.float "-inf".toList) else (floatText? true rest).map .float
    | '+' :: rest =>
      if isInfinity rest then some (.float "inf".toList) else (floatText? false rest).map .float
    | _ => if isInfinity cs then some (.float "inf".toList) else (floatText? false cs).map .float

/-! ## Scalars -/

/-- What a plain scalar without a tag says. -/
def plainValue (cs : List Char) : Value :=
  if cs.isEmpty || isNull cs then .unit
  else
    match bool? cs with
    | some b => .bool b
    | none =>
      match integer? cs with
      | some value => value
      | none =>
        if isZeroPadded cs then .string cs
        else (float? cs).getD (.string cs)

/-- A kind that a tag asks for. -/
inductive Kind where
  | bool
  | integer
  | float
  | null
  deriving DecidableEq, Repr

/-- The full name of a kind. -/
def Kind.tag : Kind → List Char
  | bool => "tag:yaml.org,2002:bool".toList
  | integer => "tag:yaml.org,2002:int".toList
  | float => "tag:yaml.org,2002:float".toList
  | null => "tag:yaml.org,2002:null".toList

/-- The kind that a tag asks for. -/
def Kind.ofTag? (tag : List Char) : Option Kind :=
  [bool, integer, float, null].find? (·.tag == tag)

/-- Reads a text as a value of a kind. -/
def Kind.read? (cs : List Char) : Kind → Option Value
  | bool => (bool? cs).map .bool
  | integer => integer? cs
  | float => float? cs
  | null => if isNull cs then some .unit else none

/-- What a scalar says, or the kind that its tag asks for and its text is not. -/
def Scalar.value (scalar : Scalar) : Except Kind Value :=
  match scalar.tag with
  | none =>
    .ok (if scalar.style == .plain then plainValue scalar.text else .string scalar.text)
  | some tag =>
    match Kind.ofTag? tag with
    | some kind =>
      match kind.read? scalar.text with
      | some value => .ok value
      | none => .error kind
    | none =>
      .ok (if tag.head? == some '!' && scalar.style == .plain then plainValue scalar.text
        else .string scalar.text)

/-- A scalar that may be a value of a kind: a plain one, or a literal one with the tag of the kind. -/
def Scalar.mayBe (scalar : Scalar) (kind : Kind) : Bool :=
  scalar.style == .plain || (scalar.style == .literal && scalar.tag == some kind.tag)

end ClosedLoop.Yaml
