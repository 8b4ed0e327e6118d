/-!
# Binary64

The finite numbers of the format binary64, held exactly: a sign, a mantissa and a power of two.
Nothing here uses machine floating point, so every question about a number (is it whole, which of
two is less, what decimal is nearest) is a question about integers.

A number enters through `ofFraction?` or `ofDecimal?`, which round once, to the nearest, with a tie
to the even mantissa. `none` is a result beyond the largest finite number.
-/

namespace FormTree

/-- One mantissa and exponent per number: the mantissa is full, with 53 bits, unless the exponent is
the least. -/
structure Binary64 where
  negative : Bool
  mantissa : Nat
  exponent : Int
  canonical : mantissa < 0x20000000000000 ∧ -1074 ≤ exponent ∧ exponent ≤ 971 ∧
    (0x10000000000000 ≤ mantissa ∨ exponent = -1074)
deriving DecidableEq

namespace Binary64

/-- The integer nearest to `n / d`; a tie goes to the even one. -/
def roundHalfEven (n d : Nat) : Nat :=
  let quotient := n / d
  let twice := 2 * (n % d)
  if twice < d then quotient
  else if d < twice then quotient + 1
  else if quotient % 2 = 0 then quotient else quotient + 1

/-- `n / d · 2 ^ shift` as numerator and denominator. -/
def scaleTwo (n d : Nat) (shift : Int) : Nat × Nat :=
  if 0 ≤ shift then (n * Nat.pow 2 shift.toNat, d) else (n, d * Nat.pow 2 (-shift).toNat)

/-- `n / d · 10 ^ shift` as numerator and denominator. -/
def scaleTen (n d : Nat) (shift : Int) : Nat × Nat :=
  if 0 ≤ shift then (n * Nat.pow 10 shift.toNat, d) else (n, d * Nat.pow 10 (-shift).toNat)

/-- The greatest `e` with `2 ^ e ≤ n / d`, for positive `n` and `d`. -/
def floorLog2 (n d : Nat) : Int :=
  let guess : Int := (Nat.log2 n : Int) - Nat.log2 d
  let scaled := scaleTwo n d (-guess)
  if scaled.2 ≤ scaled.1 then guess else guess - 1

def zero (negative : Bool) : Binary64 := ⟨negative, 0, -1074, by decide⟩

def ofFraction? (negative : Bool) (n d : Nat) : Option Binary64 :=
  if n = 0 then some (zero negative)
  else
    let exponent := max (floorLog2 n d - 52) (-1074)
    let scaled := scaleTwo n d (-exponent)
    let rounded := roundHalfEven scaled.1 scaled.2
    let m := if rounded = 0x20000000000000 then 0x10000000000000 else rounded
    let e := if rounded = 0x20000000000000 then exponent + 1 else exponent
    if h : m < 0x20000000000000 ∧ -1074 ≤ e ∧ e ≤ 971 ∧ (0x10000000000000 ≤ m ∨ e = -1074) then
      some ⟨negative, m, e, h⟩
    else none

/-- The number nearest to `digits · 10 ^ scale`. Scales far outside the format are settled by size
alone, so that no huge power is computed: `10 ^ 400` is beyond every finite number, and
`10 ^ s ≤ 2 ^ (3 s)` for negative `s` puts the value below half the least positive number. -/
def ofDecimal? (negative : Bool) (digits : Nat) (scale : Int) : Option Binary64 :=
  if digits = 0 then some (zero negative)
  else if 400 < scale then none
  else if scale < 0 ∧ (Nat.log2 digits : Int) + 1 + 3 * scale < -1080 then some (zero negative)
  else
    let scaled := scaleTen digits 1 scale
    ofFraction? negative scaled.1 scaled.2

def isZero (x : Binary64) : Bool := x.mantissa == 0

/-- The absolute value as numerator and denominator. -/
def magnitude (x : Binary64) : Nat × Nat := scaleTwo x.mantissa 1 x.exponent

/-- The exact value as a signed numerator and a positive denominator. -/
def toFraction (x : Binary64) : Int × Nat :=
  (if x.negative then -(x.magnitude.1 : Int) else x.magnitude.1, x.magnitude.2)

/-- The integer that the number is, if it has no fractional part. -/
def toInt? (x : Binary64) : Option Int :=
  if x.magnitude.1 % x.magnitude.2 = 0 then
    let whole : Int := (x.magnitude.1 / x.magnitude.2 : Nat)
    some (if x.negative then -whole else whole)
  else none

/-- Equal as numbers: the two zeros are one number. -/
def same (x y : Binary64) : Bool := (x.isZero && y.isZero) || decide (x = y)

@[simp] theorem same_refl (x : Binary64) : same x x = true := by simp [same]

end Binary64

end FormTree
