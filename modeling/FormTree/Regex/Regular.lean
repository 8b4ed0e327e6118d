import FormTree.Regex.Basic
import FormTree.Unicode.BinaryProperty
import Std.Data.HashSet

/-!
# Regular parts

The part of an expression that needs no memory: sets of characters and positions, put together by
sequence, alternative and repetition. Where such a part can end depends only on where it begins, so
all its ends are found without going back, each place once.

`Regular.ends` lists the ends, the preferred one first. A regular part that is matched on its own
counts by its preferred end alone.
-/

namespace FormTree

namespace Assertion

/-- What is asked of the position before the character with the given index. -/
def holds (assertion : Assertion) (text : Array Char) (position : Nat) : Bool :=
  let previous := if position = 0 then none else text[position - 1]?
  let next := text[position]?
  let inWord (c : Option Char) : Bool := c.any Unicode.isWordCharacter
  match assertion with
  | .textStart => previous.isNone
  | .textEnd => next.isNone
  | .lineStart => previous.all (· == '\n')
  | .lineEnd => next.all (· == '\n')
  | .wordEdge => inWord previous != inWord next
  | .noWordEdge => inWord previous == inWord next
  | .wordStart => !inWord previous && inWord next
  | .wordEnd => inWord previous && !inWord next

def aboutWords : Assertion → Bool
  | .wordEdge | .noWordEdge | .wordStart | .wordEnd => true
  | _ => false

end Assertion

inductive Regular where
  | empty
  | char (set : CharSet)
  | assertion (assertion : Assertion)
  | seq (r s : Regular)
  | alt (r s : Regular)
  | repeated (r : Regular) (times : Repetition) (greedy : Bool)

namespace Regular

/-! ### Positions -/

/-- The positions that are not among those seen, each where it comes first. -/
def distinctFrom (seen : Std.HashSet Nat) : List Nat → List Nat
  | [] => []
  | position :: rest =>
    if seen.contains position then distinctFrom seen rest
    else position :: distinctFrom (seen.insert position) rest

/-- The positions, each where it comes first. -/
def distinct (positions : List Nat) : List Nat := distinctFrom ∅ positions

/-! ### Repetition -/

/-- A walk through the positions that repetition reaches: those seen, each with the number of
repetitions before it, and those at which it may end, the last one first. -/
structure Walk where
  seen : Std.HashSet (Nat × Nat)
  found : List Nat

/-- Walks on from a position that `count` repetitions have reached. Where there is no upper bound, a
repetition beyond the least number has to get on, and counts beyond the least number are not told
apart. -/
def walk (step : Nat → List Nat) (times : Repetition) (greedy : Bool) :
    Nat → Nat → Walk → Nat → Walk
  | 0, _, journey, _ => journey
  | fuel + 1, count, ⟨seen, found⟩, position =>
    if seen.contains (count, position) then ⟨seen, found⟩
    else
      let journey : Walk := ⟨seen.insert (count, position), found⟩
      let next := match times.most with
        | some most => if count < most then step position else []
        | none => (step position).filter fun next => count < times.least || position < next
      let nextCount := match times.most with
        | some _ => count + 1
        | none => min (count + 1) times.least
      let goOn (journey : Walk) : Walk :=
        next.foldl (fun journey next => walk step times greedy fuel nextCount journey next) journey
      let stop (journey : Walk) : Walk := ⟨journey.seen, position :: journey.found⟩
      if count < times.least then goOn journey
      else if greedy then stop (goOn journey)
      else goOn (stop journey)

/-- The positions at which a repeated step may end, the preferred one first. -/
def repeatedEnds (step : Nat → List Nat) (times : Repetition) (greedy : Bool)
    (remaining position : Nat) : List Nat :=
  let fuel := match times.most with
    | some most => most + 1
    | none => times.least + remaining + 2
  distinct (walk step times greedy fuel 0 ⟨∅, []⟩ position).found.reverse

/-! ### Ends -/

/-- The positions at which an expression that begins at a position can end, each once, the preferred
one first. -/
def ends (text : Array Char) : Regular → Nat → List Nat
  | .empty, position => [position]
  | .char set, position =>
    match text[position]? with
    | some c => if set.contains c then [position + 1] else []
    | none => []
  | .assertion question, position => if question.holds text position then [position] else []
  | .seq r s, position => distinct ((ends text r position).flatMap fun p => ends text s p)
  | .alt r s, position => distinct (ends text r position ++ ends text s position)
  | .repeated r times greedy, position =>
    repeatedEnds (fun p => ends text r p) times greedy (text.size - position) position

end Regular

end FormTree
