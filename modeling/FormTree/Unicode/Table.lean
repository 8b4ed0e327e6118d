import FormTree.Text.Blank
import FormTree.Text.Digits

/-!
# Tables of characters

Properties of characters follow the Unicode standard, version 16. A property is a table of code
points, and a table is written as text: hexadecimal code points such as `B5`, runs such as `41-5A`,
and runs of every second code point such as `100-12E/2`, with blanks between them.
-/

namespace FormTree.Unicode

/-- Every `step`-th code point from the first to the last. -/
structure Span where
  first : Nat
  last : Nat
  step : Nat
deriving DecidableEq

abbrev Table := List Span

namespace Span

def contains (span : Span) (n : Nat) : Bool :=
  span.first ≤ n && n ≤ span.last && (n - span.first) % span.step == 0

def isHex (c : Char) : Bool := (Digits.hexValue? c).isSome

/-- The number that hexadecimal digits denote; where another character stands among them, 0. -/
def number (digits : List Char) : Nat := (Digits.hexNumber? digits).getD 0

/-- What is written `first`, `first-last` or `first-last/step`, and the text after it. -/
def read (text : List Char) : Span × List Char :=
  let first := number (text.takeWhile isHex)
  match text.dropWhile isHex with
  | '-' :: rest =>
    let last := number (rest.takeWhile isHex)
    match rest.dropWhile isHex with
    | '/' :: rest => (⟨first, last, number (rest.takeWhile isHex)⟩, rest.dropWhile isHex)
    | rest => (⟨first, last, 1⟩, rest)
  | rest => (⟨first, first, 1⟩, rest)

end Span

def words : List Char → List (List Char)
  | [] => []
  | c :: rest =>
    if isBlank c then [] :: words rest
    else
      match words rest with
      | [] => [[c]]
      | word :: others => (c :: word) :: others

namespace Table

def read (text : String) : Table :=
  ((words text.toList).filter fun word => !word.isEmpty).map fun word => (Span.read word).1

def contains (table : Table) (c : Char) : Bool := table.any (·.contains c.toNat)

end Table

end FormTree.Unicode
