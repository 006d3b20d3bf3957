import ClosedLoop.Text.Decimal

/-!
# Numbers of 53 binary digits

A decimal number is kept as the nearest `mantissa * 2 ^ exponent` with a mantissa below 2^53 and an
exponent from -1074 to 971; of two that are equally near, the one with the even mantissa. It is
written with the fewest decimal digits that are kept as the same number, and of those texts the
nearest to it, always in positional notation.

All arithmetic is exact, on quotients of natural numbers.
-/

namespace ClosedLoop.Text

/-- The number `mantissa * 2 ^ exponent`. -/
structure Binary64 where
  mantissa : Nat
  exponent : Int
  deriving DecidableEq, Repr

namespace Binary64

/-- All mantissas are below 2^53. -/
def mantissaLimit : Nat := 9007199254740992

/-- The quotient rounded to the nearest number, a tie to the even one. -/
def roundDiv (num den : Nat) : Nat :=
  let q := num / den
  let r := num % den
  if 2 * r < den then q else if den < 2 * r then q + 1 else q + q % 2

/-- The quotient with its numerator and denominator divided by a power. -/
def scale (base : Nat) (exponent : Int) (num den : Nat) : Nat × Nat :=
  match exponent with
  | .ofNat n => (num, den * Nat.pow base n)
  | .negSucc n => (num * Nat.pow base (n + 1), den)

/-- The nearest number to a positive quotient; `none` beyond the largest. -/
def nearest? (num den : Nat) : Option Binary64 :=
  let guess : Int := Nat.log2 num - Nat.log2 den - 53
  let (n, d) := scale 2 guess num den
  let exponent := max (if mantissaLimit ≤ n / d then guess + 1 else guess) (-1074)
  let (n, d) := scale 2 exponent num den
  let mantissa := roundDiv n d
  let (mantissa, exponent) :=
    if mantissa = mantissaLimit then (mantissaLimit / 2, exponent + 1) else (mantissa, exponent)
  if 971 < exponent then none else some ⟨mantissa, exponent⟩

/-- The nearest number to `digits * 10 ^ power`; `none` beyond the largest. -/
def ofDecimal? (digits : Nat) (power : Int) : Option Binary64 :=
  if digits = 0 then some ⟨0, -1074⟩
  else
    let places : Int := (Decimal.digits digits).length
    if 310 < places + power then none
    else if places + power < -330 then some ⟨0, -1074⟩
    else
      let (n, d) := scale 10 (-power) digits 1
      nearest? n d

/-- Whether `digits * 10 ^ power` is kept as the number. -/
def isNear (x : Binary64) (digits : Nat) (power : Int) : Bool :=
  let below := if x.mantissa = mantissaLimit / 2 ∧ -1074 < x.exponent then 1 else 2
  let (n, d) := scale 10 (-power) digits 1
  let (n, d) := scale 2 (x.exponent - 2) n d
  let low := (4 * x.mantissa - below) * d
  let high := (4 * x.mantissa + 2) * d
  if x.mantissa % 2 = 0 then low ≤ n && n ≤ high else low < n && n < high

/--
The shortest digits of a positive number and the power of ten for the last of them, from `power` down
over `steps` powers.
-/
def shortestFrom (x : Binary64) : (steps : Nat) → (power : Int) → Nat × Int
  | 0, power => (0, power)
  | steps + 1, power =>
    let (n, d) := scale 2 (-x.exponent) x.mantissa 1
    let (n, d) := scale 10 power n d
    let lower := n / d
    let isLower := 0 < lower && isNear x lower power
    let isUpper := isNear x (lower + 1) power
    if isLower && (!isUpper || 2 * (n % d) < d) then (lower, power)
    else if isUpper then (lower + 1, power)
    else shortestFrom x steps (power - 1)

/-- The shortest digits of a number, and the power of ten for the last of them. -/
def shortest (x : Binary64) : Nat × Int :=
  if x.mantissa = 0 then (0, 0) else shortestFrom x 650 310

/-- `digits * 10 ^ power` in positional notation. -/
def positional (digits : Nat) (power : Int) : List Char :=
  let ds := Decimal.digits digits
  match power with
  | .ofNat n => if digits = 0 then ds else ds ++ List.replicate n '0'
  | .negSucc n =>
    let places := n + 1
    if places < ds.length then ds.take (ds.length - places) ++ '.' :: ds.drop (ds.length - places)
    else '0' :: '.' :: List.replicate (places - ds.length) '0' ++ ds

/-- The text of a number. -/
def text (x : Binary64) : List Char :=
  let (digits, power) := x.shortest
  positional digits power

end Binary64

end ClosedLoop.Text
