import FormTree.Unicode.Folding

/-!
# Sets of characters

Sets as expressions over tables, with membership as their meaning. `anyCase` closes a set under
case: a character belongs to it if one that differs only by case belongs to the set.
-/

namespace FormTree

open Unicode

inductive CharSet where
  | table (table : Table)
  | union (s t : CharSet)
  | inter (s t : CharSet)
  | complement (s : CharSet)
  | anyCase (s : CharSet)

namespace CharSet

def contains : CharSet → Char → Bool
  | .table t, c => Table.contains t c
  | .union s t, c => s.contains c || t.contains c
  | .inter s t, c => s.contains c && t.contains c
  | .complement s, c => !s.contains c
  | .anyCase s, c => (Folding.variants c).any fun d => s.contains d

def empty : CharSet := .table []

def range (first last : Char) : CharSet := .table [⟨first.toNat, last.toNat, 1⟩]

def single (c : Char) : CharSet := range c c

def ofText (text : String) : CharSet := .table (.read text)

def diff (s t : CharSet) : CharSet := .inter s (.complement t)

/-- The characters that exactly one of two sets holds. -/
def symmDiff (s t : CharSet) : CharSet := .union (diff s t) (diff t s)

def negateIf (negated : Bool) (s : CharSet) : CharSet := if negated then .complement s else s

def anyCaseIf (ignored : Bool) (s : CharSet) : CharSet := if ignored then .anyCase s else s

/-! ### Runs -/

/-- Adds a run before others that begin no earlier, and puts together those that meet. -/
def addRun (run : Nat × Nat) : List (Nat × Nat) → List (Nat × Nat)
  | [] => [run]
  | next :: rest =>
    if next.1 ≤ run.2 + 1 then addRun (run.1, max run.2 next.2) rest else run :: next :: rest

/-- The same code points in runs that follow one another and do not meet. -/
def joined (runs : List (Nat × Nat)) : List (Nat × Nat) :=
  (runs.mergeSort fun s t => s.1 ≤ t.1).foldr addRun []

/-- The code points from `first` on that none of the runs has, which are in their order. -/
def gaps (first : Nat) : List (Nat × Nat) → List (Nat × Nat)
  | [] => if first ≤ 0x10FFFF then [(first, 0x10FFFF)] else []
  | run :: rest =>
    if first < run.1 then (first, run.1 - 1) :: gaps (run.2 + 1) rest else gaps (run.2 + 1) rest

/-- The runs of code points that make up the set, before case is ignored. -/
def runs : CharSet → List (Nat × Nat)
  | .table t =>
    joined (t.flatMap fun span =>
      if span.step = 1 then [(span.first, span.last)]
      else (List.range ((span.last - span.first) / span.step + 1)).map fun i =>
        (span.first + i * span.step, span.first + i * span.step))
  | .union s t => joined (runs s ++ runs t)
  | .inter s t => gaps 0 (joined (gaps 0 (runs s) ++ gaps 0 (runs t)))
  | .complement s => gaps 0 (runs s)
  | .anyCase s => runs s

end CharSet

end FormTree
