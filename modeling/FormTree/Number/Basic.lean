import FormTree.Number.Shortest

/-!
# Numbers

A number in a value is an integer or a binary64 number, and the two are never confused: `1` and
`1.0` are different contents of a field. Where a schema compares, only the amount counts, and then
the comparison is exact: both kinds are fractions, and fractions are compared by cross
multiplication.
-/

namespace FormTree

inductive Number where
  | int (i : Int)
  | float (x : Binary64)
deriving DecidableEq

namespace Number

/-- The same content: integers with integers, binary64 with binary64, and the two zeros alike. -/
def same : Number → Number → Bool
  | .int i, .int j => decide (i = j)
  | .float x, .float y => x.same y
  | _, _ => false

/-- The exact amount as a signed numerator and a positive denominator. -/
def toFraction : Number → Int × Nat
  | .int i => (i, 1)
  | .float x => x.toFraction

def lt (a b : Number) : Bool :=
  decide (a.toFraction.1 * b.toFraction.2 < b.toFraction.1 * a.toFraction.2)

def equal (a b : Number) : Bool :=
  decide (a.toFraction.1 * b.toFraction.2 = b.toFraction.1 * a.toFraction.2)

def toInt? : Number → Option Int
  | .int i => some i
  | .float x => x.toInt?

def text : Number → String
  | .int i => toString i
  | .float x => x.text

/-- The integers that a number can hold as integers: a signed or an unsigned word of 64 bits. -/
def InWordRange (i : Int) : Prop := -0x8000000000000000 ≤ i ∧ i < 0x10000000000000000

instance (i : Int) : Decidable (InWordRange i) := inferInstanceAs (Decidable (_ ∧ _))

@[simp] theorem same_refl (n : Number) : same n n = true := by cases n <;> simp [same]

end Number

end FormTree
