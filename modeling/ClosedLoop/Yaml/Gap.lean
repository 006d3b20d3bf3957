import ClosedLoop.Yaml.Position

/-!
# Gaps

A gap is the white space between two words of a scalar. Within a line its blanks are kept. Over a
break, the blanks vanish; one break becomes a space, and of several all but the first are kept. The
separators U+2028 and U+2029 are kept also where they come first, and an escaped break leaves
nothing in its own place.
-/

namespace ClosedLoop.Yaml

/-- White space read since the last word. -/
inductive Gap where
  | none
  | blanks (kept : List Char)
  /-- Over a break; `none` for one that is escaped. -/
  | across (first : Option Char) (more : List Char)

namespace Gap

/-- A blank or a break more. -/
def add (gap : Gap) (c : Char) : Gap :=
  match gap with
  | across first more => if isBreak c then across first (more ++ [c]) else gap
  | blanks kept => if isBreak c then across (some c) [] else blanks (kept ++ [c])
  | none => if isBreak c then across (some c) [] else blanks [c]

/-- Whether the gap goes across a break. -/
def isAcross : Gap → Bool
  | across _ _ => true
  | _ => false

def isNone : Gap → Bool
  | none => true
  | _ => false

/-- What the gap leaves in the text. -/
def text : Gap → List Char
  | none => []
  | blanks kept => kept
  | across (some '\n') [] => [' ']
  | across (some '\n') more => more
  | across (some c) more => c :: more
  | across .none more => more

end Gap

end ClosedLoop.Yaml
