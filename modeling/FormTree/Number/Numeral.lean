import FormTree.Number.Basic
import FormTree.Text.Digits

/-!
# Typed numerals

The numbers that a person may type: an integer is digits with an optional sign; a decimal has digits
with at most one point before, between or after them, and an optional power of ten. Both denote
exact amounts, and only storing a decimal as binary64 rounds it.
-/

namespace FormTree

namespace Numeral

/-- The sign at the start, true for minus, and the text after it. -/
def splitSign : List Char → Bool × List Char
  | '-' :: rest => (true, rest)
  | '+' :: rest => (false, rest)
  | text => (false, text)

/-- The integer written as digits with an optional sign. -/
def integer? (text : List Char) : Option Int :=
  let (negative, digits) := splitSign text
  if digits.isEmpty ∨ !digits.all Char.isDigit then none
  else some (if negative then -(Digits.number digits : Int) else Digits.number digits)

/-- A decimal amount: a sign, digits and a power of ten. -/
structure Amount where
  negative : Bool
  digits : Nat
  scale : Int
deriving DecidableEq

/-- The power of ten after `e`; no text at all is the power 0. -/
def power? : List Char → Option Int
  | [] => some 0
  | c :: rest => if c = 'e' ∨ c = 'E' then integer? rest else none

def decimal? (text : List Char) : Option Amount :=
  let (negative, body) := splitSign text
  let whole := body.takeWhile Char.isDigit
  let afterWhole := body.dropWhile Char.isDigit
  let (fraction, afterFraction) := match afterWhole with
    | '.' :: rest => (rest.takeWhile Char.isDigit, rest.dropWhile Char.isDigit)
    | rest => ([], rest)
  if whole.isEmpty ∧ fraction.isEmpty then none
  else
    (power? afterFraction).map fun power =>
      ⟨negative, Digits.number (whole ++ fraction), power - (fraction.length : Int)⟩

/-- The binary64 number nearest to an amount; none if it is beyond all finite ones. -/
def Amount.toBinary64? (amount : Amount) : Option Binary64 :=
  Binary64.ofDecimal? amount.negative amount.digits amount.scale

end Numeral

end FormTree
