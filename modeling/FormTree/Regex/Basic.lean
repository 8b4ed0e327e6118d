import FormTree.Unicode.CharSet

/-!
# Regular expressions

The expressions that a schema's `pattern` may hold. Beside the regular ones there are captured
groups and references back to them, looking around, atomic parts and choices by a condition.

An expression may look behind only over a stretch whose width is known. Alternatives of different
widths are looked for one by one: `splitLookBehind` takes them apart.
-/

namespace FormTree

/-- What can be asked of a position between two characters. -/
inductive Assertion where
  | textStart | textEnd | lineStart | lineEnd | wordEdge | noWordEdge | wordStart | wordEnd
deriving DecidableEq

structure Repetition where
  least : Nat
  most : Option Nat
deriving DecidableEq

inductive Regex where
  | empty
  | char (set : CharSet)
  | assertion (assertion : Assertion)
  | seq (r s : Regex)
  | alt (r s : Regex)
  /-- As few repetitions as possible are tried first, unless it is `greedy`. -/
  | repeated (r : Regex) (times : Repetition) (greedy : Bool)
  | group (number : Nat) (r : Regex)
  | backReference (number : Nat)
  | lookAhead (wanted : Bool) (r : Regex)
  | lookBehind (wanted : Bool) (r : Regex)
  /-- Only the first way to match `r` is tried. -/
  | atomic (r : Regex)
  /-- Matches the empty text if the group has been entered. -/
  | entered (number : Nat)
  | choice (condition r s : Regex)

namespace Regex

/-- Matches the empty text as `empty` does, but is an item of its own. -/
def skip : Regex := .seq .empty .empty

def sequence : List Regex → Regex
  | [] => .empty
  | [r] => r
  | r :: rest => .seq r (sequence rest)

/-- One of several expressions. If the last one is itself a choice among several, it is kept apart
from the others. -/
def alternatives : List Regex → Regex
  | [] => .empty
  | [r] => r
  | [r, .alt s t] => .alt r (.seq .empty (.alt s t))
  | r :: rest => .alt r (alternatives rest)

/-- A position cannot be repeated, and neither can nothing. -/
def isRepeatable : Regex → Bool
  | .empty => false
  | .assertion _ => false
  | .lookAhead _ _ => false
  | .lookBehind _ _ => false
  | _ => true

/-! ### Widths -/

/-- The number of characters that an expression matches, if it is always the same. -/
def width? : Regex → Option Nat
  | .empty => some 0
  | .char _ => some 1
  | .assertion _ => some 0
  | .seq r s => (width? r).bind fun m => (width? s).map fun n => m + n
  | .alt r s =>
    (width? r).bind fun m => (width? s).bind fun n => if m = n then some m else none
  | .repeated r times _ =>
    if times.most = some times.least then (width? r).map (times.least * ·) else none
  | .group _ r => width? r
  | .backReference _ => none
  | .lookAhead _ _ => some 0
  | .lookBehind _ _ => some 0
  | .atomic r => width? r
  | .entered _ => some 0
  | .choice condition r s =>
    (width? condition).bind fun k => (width? r).bind fun m => (width? s).bind fun n =>
      if k + m = n then some n else none

/-- Looks behind for each of some alternatives on its own, unless all have one width. -/
def lookBehindEach (wanted : Bool) : Regex → Regex
  | .alt r s =>
    if (width? (.alt r s)).isSome then .lookBehind wanted (.alt r s)
    else if wanted then .alt (.lookBehind true r) (lookBehindEach true s)
    else .seq (.lookBehind false r) (lookBehindEach false s)
  | r => .lookBehind wanted r

/-- The expression such that it looks behind over one width at a time, where that is possible. -/
def splitLookBehind : Regex → Regex
  | .seq r s => .seq (splitLookBehind r) (splitLookBehind s)
  | .alt r s => .alt (splitLookBehind r) (splitLookBehind s)
  | .repeated r times greedy => .repeated (splitLookBehind r) times greedy
  | .group number r => .group number (splitLookBehind r)
  | .lookAhead wanted r => .lookAhead wanted (splitLookBehind r)
  | .lookBehind wanted r => lookBehindEach wanted (splitLookBehind r)
  | .atomic r => .atomic (splitLookBehind r)
  | .choice condition r s =>
    .choice (splitLookBehind condition) (splitLookBehind r) (splitLookBehind s)
  | r => r

/-- Nothing in the expression looks behind over a stretch of unknown width. -/
def looksBehindFixed : Regex → Bool
  | .seq r s => looksBehindFixed r && looksBehindFixed s
  | .alt r s => looksBehindFixed r && looksBehindFixed s
  | .repeated r _ _ => looksBehindFixed r
  | .group _ r => looksBehindFixed r
  | .lookAhead _ r => looksBehindFixed r
  | .lookBehind _ r => (width? r).isSome && looksBehindFixed r
  | .atomic r => looksBehindFixed r
  | .choice condition r s =>
    looksBehindFixed condition && looksBehindFixed r && looksBehindFixed s
  | _ => true

end Regex

end FormTree
