/-!
# Blank text

A name is blank when it holds nothing but white space, and white space is the Unicode property
`White_Space`: the ASCII blanks, NEL, the no-break space, the spaces of U+2000 to U+200A, the two
separators and the ideographic space. Zero-width characters (U+200B, U+FEFF) and the information
separators U+001C to U+001F do not belong to it.
-/

namespace ClosedLoop.Text

/-- The Unicode property `White_Space`. -/
def isSpace (c : Char) : Bool :=
  let n := c.toNat
  (0x09 ≤ n && n ≤ 0x0D) || n == 0x20 || n == 0x85 || n == 0xA0 || n == 0x1680 ||
    (0x2000 ≤ n && n ≤ 0x200A) || n == 0x2028 || n == 0x2029 || n == 0x202F || n == 0x205F ||
    n == 0x3000

/-- Holds nothing but white space. -/
def isBlank (text : String) : Bool :=
  text.toList.all isSpace

/-- A text without the white space around it. -/
def trimmed (cs : List Char) : List Char :=
  ((cs.dropWhile isSpace).reverse.dropWhile isSpace).reverse

theorem isBlank_empty : isBlank "" = true := rfl

theorem isBlank_iff {text : String} : isBlank text = true ↔ ∀ c ∈ text.toList, isSpace c = true := by
  simp [isBlank]

/-- Every blank of ASCII is white space here too. -/
theorem isSpace_of_isWhitespace {c : Char} (h : c.isWhitespace = true) : isSpace c = true := by
  simp only [Char.isWhitespace, Bool.or_eq_true, decide_eq_true_eq] at h
  rcases h with ((rfl | rfl) | rfl) | rfl <;> decide

end ClosedLoop.Text
