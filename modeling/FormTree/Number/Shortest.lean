import FormTree.Number.Binary64

/-!
# The shortest decimal of a number

Of all decimals that read back as a given number, `shortest` takes one with the fewest digits, and
of those the nearest, with a tie to the even digit. It looks at the decimals with one digit, two
digits and so on, up to the seventeen that always suffice; on each of these grids only the two
neighbours of the number can be the nearest.

The layout is that of JSON text: plain notation with a fraction part when the leading digit stands
for `10 ^ -5` to `10 ^ 15`, and otherwise a signed exponent.
-/

namespace FormTree

/-- The value `digits · 10 ^ scale`. -/
structure Decimal where
  digits : Nat
  scale : Int
deriving DecidableEq

namespace Decimal

/-- The decimal without the zeros at the end of its digits; `fuel` bounds their number. -/
def strip : Nat → Decimal → Decimal
  | 0, x => x
  | fuel + 1, x =>
    if x.digits % 10 = 0 ∧ x.digits ≠ 0 then strip fuel ⟨x.digits / 10, x.scale + 1⟩ else x

end Decimal

namespace Binary64

/-- The greatest `k` with `10 ^ k ≤ n / d`, searched upward from a lower bound. -/
def floorLog10From (n d : Nat) : Nat → Int → Int
  | 0, k => k
  | fuel + 1, k =>
    let next := scaleTen n d (-(k + 1))
    if next.2 ≤ next.1 then floorLog10From n d fuel (k + 1) else k

/-- The greatest `k` with `10 ^ k ≤ n / d`. The start is at most the answer and within a few steps
of it, as `log 2 / log 10` is just above `3 / 10`. -/
def floorLog10 (n d : Nat) : Int :=
  let bits := floorLog2 n d
  let start := if 0 ≤ bits then bits * 301 / 1000 else bits * 302 / 1000 - 1
  floorLog10From n d 8 start

/-- The decimals with `count` digits around `n / d`, the nearer one first, and halfway between them
the one with the even digit. -/
def neighbours (n d : Nat) (leading : Int) (count : Nat) : List Decimal :=
  let scale := leading - ((count : Int) - 1)
  let scaled := scaleTen n d (-scale)
  let below := scaled.1 / scaled.2
  let rest := scaled.1 % scaled.2
  if 2 * rest < scaled.2 ∨ (2 * rest = scaled.2 ∧ below % 2 = 0) then
    [⟨below, scale⟩, ⟨below + 1, scale⟩]
  else [⟨below + 1, scale⟩, ⟨below, scale⟩]

def readsBack (x : Binary64) (decimal : Decimal) : Bool :=
  decide (ofDecimal? x.negative decimal.digits decimal.scale = some x)

/-- The decimals of one to seventeen digits next to the number, fewest digits first. -/
def candidates (x : Binary64) : List Decimal :=
  let leading := floorLog10 x.magnitude.1 x.magnitude.2
  (List.range 17).flatMap fun i => neighbours x.magnitude.1 x.magnitude.2 leading (i + 1)

/-- The shortest decimal that reads back as the number. -/
def shortest (x : Binary64) : Decimal :=
  if x.isZero then ⟨0, 0⟩
  else (((candidates x).find? x.readsBack).getD ⟨x.magnitude.1, 0⟩).strip 400

theorem readsBack_of_find? {x : Binary64} {decimal : Decimal}
    (h : (candidates x).find? x.readsBack = some decimal) : x.readsBack decimal = true :=
  List.find?_some h

/-- Digits with a point after the first `whole` of them, filled up with zeros on either side. -/
def plain (digits : List Char) (whole : Int) : List Char :=
  if whole ≤ 0 then '0' :: '.' :: (List.replicate (-whole).toNat '0' ++ digits)
  else
    let n := whole.toNat
    if digits.length ≤ n then digits ++ List.replicate (n - digits.length) '0' ++ ['.', '0']
    else digits.take n ++ '.' :: digits.drop n

/-- Digits with a point after the first one and a signed power of ten; a lone digit has no point. -/
def scientific (digits : List Char) (power : Int) : List Char :=
  let fraction := digits.drop 1
  digits.take 1 ++ (if fraction.isEmpty then [] else '.' :: fraction) ++
    ['e', if power < 0 then '-' else '+'] ++ (toString power.natAbs).toList

def text (x : Binary64) : String :=
  let decimal := x.shortest
  let digits := (toString decimal.digits).toList
  let power := (digits.length : Int) - 1 + decimal.scale
  let body :=
    if -5 ≤ power ∧ power ≤ 15 then plain digits (power + 1) else scientific digits power
  String.ofList (if x.negative then '-' :: body else body)

end Binary64

end FormTree
