import ClosedLoop.Text.Decimal

/-!
# Durations

A duration is a whole number of nanoseconds below 2^64 seconds. Sums and products are taken only
where they fit; a product that does not is `none`. The text of a duration names the largest of
s, ms, µs and ns in which it has a whole part, with no zeros at the end of the fraction.
-/

namespace ClosedLoop

/-- Nanoseconds in a second. -/
abbrev nanosPerSec : Nat := 1000000000

/-- Nanoseconds in a millisecond. -/
abbrev nanosPerMilli : Nat := 1000000

/-- A span of time in nanoseconds. -/
structure Duration where
  nanos : Nat
  nanos_lt : nanos < UInt64.size * nanosPerSec
  deriving DecidableEq, Repr

namespace Duration

@[ext] theorem ext {a b : Duration} (h : a.nanos = b.nanos) : a = b := by
  cases a; cases b; cases h; rfl

/-- A whole count of seconds. -/
def ofSecs (secs : UInt64) : Duration :=
  ⟨secs.toNat * nanosPerSec, by have := secs.toNat_lt; simp only [UInt64.size, nanosPerSec]; omega⟩

/-- A whole count of milliseconds. -/
def ofMillis (millis : UInt64) : Duration :=
  ⟨millis.toNat * nanosPerMilli, by have := millis.toNat_lt; simp only [UInt64.size, nanosPerSec, nanosPerMilli]; omega⟩

/-- Seconds and the nanoseconds beyond them; `none` where there are a whole second of these. -/
def ofParts? (secs : UInt64) (nanos : Nat) : Option Duration :=
  if h : nanos < nanosPerSec then
    some ⟨secs.toNat * nanosPerSec + nanos, by
      have := secs.toNat_lt
      simp only [UInt64.size, nanosPerSec] at *
      omega⟩
  else none

def zero : Duration := ⟨0, by decide⟩

instance : Inhabited Duration := ⟨zero⟩
instance : LE Duration := ⟨fun a b => a.nanos ≤ b.nanos⟩
instance : LT Duration := ⟨fun a b => a.nanos < b.nanos⟩
instance (a b : Duration) : Decidable (a ≤ b) := inferInstanceAs (Decidable (a.nanos ≤ b.nanos))
instance (a b : Duration) : Decidable (a < b) := inferInstanceAs (Decidable (a.nanos < b.nanos))
instance : Max Duration := ⟨fun a b => if a ≤ b then b else a⟩
instance : Min Duration := ⟨fun a b => if a ≤ b then a else b⟩

theorem le_iff {a b : Duration} : a ≤ b ↔ a.nanos ≤ b.nanos := Iff.rfl

@[simp] theorem nanos_ofSecs (secs : UInt64) : (ofSecs secs).nanos = secs.toNat * nanosPerSec := rfl

@[simp] theorem nanos_ofMillis (millis : UInt64) :
    (ofMillis millis).nanos = millis.toNat * nanosPerMilli := rfl

@[simp] theorem nanos_max (a b : Duration) : (max a b).nanos = max a.nanos b.nanos := by
  show (if a ≤ b then b else a).nanos = _
  split <;> rename_i h <;> rw [le_iff] at h <;> omega

@[simp] theorem nanos_min (a b : Duration) : (min a b).nanos = min a.nanos b.nanos := by
  show (if a ≤ b then a else b).nanos = _
  split <;> rename_i h <;> rw [le_iff] at h <;> omega

/-- The product with a number, where it is a duration. -/
def times? (d : Duration) (factor : Nat) : Option Duration :=
  if h : d.nanos * factor < UInt64.size * nanosPerSec then some ⟨d.nanos * factor, h⟩ else none

/-- Whole seconds. -/
def secs (d : Duration) : Nat := d.nanos / nanosPerSec

/-- Nanoseconds beyond the whole seconds. -/
def subsecNanos (d : Duration) : Nat := d.nanos % nanosPerSec

/-- Whole milliseconds. -/
def millis (d : Duration) : Nat := d.nanos / nanosPerMilli

theorem secs_subsecNanos (d : Duration) : d.secs * nanosPerSec + d.subsecNanos = d.nanos := by
  simp only [secs, subsecNanos, nanosPerSec]
  omega

/-! ## Text -/

/-- The fraction `part / 10 ^ places` with its point, without zeros at the end; nothing for zero. -/
def fractionText (places part : Nat) : List Char :=
  match (Text.Decimal.padded places part).reverse.dropWhile (· == '0') with
  | [] => []
  | kept => '.' :: kept.reverse

/-- A value in units of `10 ^ places` nanoseconds. -/
def inUnit (nanos places : Nat) (unit : String) : String :=
  let size := Nat.pow 10 places
  Text.Decimal.text (nanos / size) ++ String.ofList (fractionText places (nanos % size)) ++ unit

/-- The text of a duration, such as `5s`, `1.5ms` or `0ns`. -/
def text (d : Duration) : String :=
  if nanosPerSec ≤ d.nanos then inUnit d.nanos 9 "s"
  else if nanosPerMilli ≤ d.nanos then inUnit d.nanos 6 "ms"
  else if 1000 ≤ d.nanos then inUnit d.nanos 3 "µs"
  else inUnit d.nanos 0 "ns"

end Duration

end ClosedLoop
