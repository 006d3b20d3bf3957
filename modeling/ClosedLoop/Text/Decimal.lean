/-!
# Numbers in text

Natural numbers are written in decimal without leading zeros, and read in the bases 2, 8, 10 and 16
with digits of either case.

## Termination

* `digits`: the number is divided by ten
-/

namespace ClosedLoop.Text.Decimal

/-- The character of one decimal digit. -/
def digitChar (d : Nat) : Char :=
  Char.ofNat (0x30 + d)

/-- The value of a digit of base `base`; the letters of either case continue the digits. -/
def digitValue? (base : Nat) (c : Char) : Option Nat :=
  let n := c.toNat
  let v :=
    if 0x30 ≤ n && n ≤ 0x39 then n - 0x30
    else if 0x61 ≤ n && n ≤ 0x7A then n - 0x61 + 10
    else if 0x41 ≤ n && n ≤ 0x5A then n - 0x41 + 10
    else base
  if v < base then some v else none

/-- A written digit is read as its value. -/
theorem digitValue?_digitChar {d : Nat} (h : d < 10) : digitValue? 10 (digitChar d) = some d := by
  have all : ∀ e ∈ List.range 10, digitValue? 10 (digitChar e) = some e := by decide
  exact all d (List.mem_range.mpr h)

/-- The decimal digits of a number, the first one not zero unless the number is. -/
def digits (n : Nat) : List Char :=
  if n < 10 then [digitChar n] else digits (n / 10) ++ [digitChar (n % 10)]
termination_by n
decreasing_by omega

/-- A number in decimal. -/
def text (n : Nat) : String :=
  String.ofList (digits n)

/-- Reads digits of base `base` behind the value `acc` of those already read. -/
def readFrom? (base : Nat) (acc : Nat) : List Char → Option Nat
  | [] => some acc
  | c :: rest =>
    match digitValue? base c with
    | some d => readFrom? base (acc * base + d) rest
    | none => none

/-- Reads a number of base `base` that has at least one digit and nothing else. -/
def read? (base : Nat) (cs : List Char) : Option Nat :=
  if cs.isEmpty then none else readFrom? base 0 cs

theorem readFrom?_append (base acc : Nat) (xs ys : List Char) :
    readFrom? base acc (xs ++ ys) = (readFrom? base acc xs).bind (readFrom? base · ys) := by
  induction xs generalizing acc with
  | nil => rfl
  | cons c rest ih =>
    simp only [List.cons_append, readFrom?]
    split
    · exact ih _
    · rfl

theorem digits_ne_nil (n : Nat) : digits n ≠ [] := by
  unfold digits
  split <;> simp

theorem readFrom?_digits (n : Nat) : readFrom? 10 0 (digits n) = some n := by
  fun_induction digits n with
  | case1 n h => simp [readFrom?, digitValue?_digitChar h]
  | case2 n h ih =>
    have last : n % 10 < 10 := Nat.mod_lt _ (by omega)
    simp only [readFrom?_append, ih, Option.bind_some, readFrom?, digitValue?_digitChar last]
    congr 1
    omega

/-- A number is read back from its decimal digits. -/
theorem read?_digits (n : Nat) : read? 10 (digits n) = some n := by
  simp [read?, List.isEmpty_iff, digits_ne_nil, readFrom?_digits]

theorem digitChar_isDigit {d : Nat} (h : d < 10) : (digitChar d).isDigit = true := by
  have all : ∀ e ∈ List.range 10, (digitChar e).isDigit = true := by decide
  exact all d (List.mem_range.mpr h)

theorem isDigit_of_mem_digits (n : Nat) : ∀ c ∈ digits n, c.isDigit = true := by
  fun_induction digits n with
  | case1 n h =>
    intro c member
    rw [List.mem_singleton.mp member]
    exact digitChar_isDigit h
  | case2 n h ih =>
    intro c member
    rcases List.mem_append.mp member with front | last
    · exact ih c front
    · rw [List.mem_singleton.mp last]
      exact digitChar_isDigit (Nat.mod_lt n (by decide))

/-- The first digit is not zero unless it is the only one. -/
theorem digits_begin (n : Nat) : digits n = ['0'] ∨ ∃ c cs, digits n = c :: cs ∧ c ≠ '0' := by
  fun_induction digits n with
  | case1 n h =>
    have all : ∀ d ∈ List.range 10, d = 0 ∨ digitChar d ≠ '0' := by decide
    rcases all n (List.mem_range.mpr h) with rfl | other
    · exact .inl rfl
    · exact .inr ⟨_, [], rfl, other⟩
  | case2 n h ih =>
    rcases ih with zero | ⟨c, cs, begins, other⟩
    · have value := read?_digits (n / 10)
      rw [zero] at value
      have none' : n / 10 = 0 := (Option.some.inj value).symm
      omega
    · exact .inr ⟨c, cs ++ [digitChar (n % 10)], by rw [begins, List.cons_append], other⟩

/-- Pads with zeros on the left to a fixed count of places. -/
def padded (places n : Nat) : List Char :=
  let ds := digits n
  List.replicate (places - ds.length) '0' ++ ds

end ClosedLoop.Text.Decimal
