import ClosedLoop.Text.Decimal
import ClosedLoop.Text.Quoted

/-!
# JSON

Values written over several lines: every member of an object stands on a line of its own, two spaces
deeper than the object, and an empty object takes no lines. In texts only the quote, the backslash
and the characters below the space are escaped, by a letter where there is one.
-/

namespace ClosedLoop

open Text

/-- A value in JSON. -/
inductive Json where
  | flag (b : Bool)
  | number (n : Nat)
  | text (s : String)
  | object (members : List (String × Json))

namespace Json

/-- One character as it stands between quotes. -/
def escape (c : Char) : List Char :=
  if c = '"' ∨ c = '\\' then ['\\', c]
  else if c = '\x08' then ['\\', 'b']
  else if c = '\t' then ['\\', 't']
  else if c = '\n' then ['\\', 'n']
  else if c = '\x0c' then ['\\', 'f']
  else if c = '\r' then ['\\', 'r']
  else if c.toNat < 0x20 then
    ['\\', 'u', '0', '0', Quoted.hexChar (c.toNat / 16), Quoted.hexChar (c.toNat % 16)]
  else [c]

/-- A text between quotes. -/
def quote (s : String) : List Char :=
  '"' :: s.toList.flatMap escape ++ ['"']

/-- The beginning of a line at a depth. -/
def newLine (depth : Nat) : List Char :=
  '\n' :: List.replicate (2 * depth) ' '

mutual

/-- The characters of a value that begins at a depth. -/
def chars (depth : Nat) : Json → List Char
  | flag b => (if b then "true" else "false").toList
  | number n => Decimal.digits n
  | text s => quote s
  | object [] => ['\x7b', '\x7d']
  | object ((name, value) :: rest) =>
    '\x7b' :: newLine (depth + 1) ++ quote name ++ [':', ' '] ++ chars (depth + 1) value ++
      memberChars (depth + 1) rest ++ newLine depth ++ ['\x7d']

/-- The characters of members behind the first. -/
def memberChars (depth : Nat) : List (String × Json) → List Char
  | [] => []
  | (name, value) :: rest =>
    ',' :: newLine depth ++ quote name ++ [':', ' '] ++ chars depth value ++ memberChars depth rest

end

/-- A value over several lines. -/
def pretty (value : Json) : String :=
  String.ofList (value.chars 0)

end Json

end ClosedLoop
