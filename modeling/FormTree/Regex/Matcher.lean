import FormTree.Regex.Size

/-!
# Matching

An expression that looks around or refers back is matched by trying: when what follows a choice
fails, the choice is taken back and the next one is tried. Choices are taken back at most a million
times for one text; then it stays open whether the expression is found.

A `Matcher` is an expression prepared for that. A regular part is taken whole and in its preferred
way where nothing that comes later can take its choices back: where it is the expression itself, and
where it ends an atomic part or what is looked for around a position.
-/

namespace FormTree

inductive Matcher where
  /-- Only the preferred end counts. -/
  | regular (r : Regular)
  | empty
  | char (set : CharSet)
  | assertion (assertion : Assertion)
  | seq (m n : Matcher)
  | alt (m n : Matcher)
  | repeated (m : Matcher) (times : Repetition) (greedy : Bool)
  | group (number : Nat) (m : Matcher)
  | backReference (number : Nat)
  /-- Asks whether `m` is found from `back` characters before the position on. -/
  | look (wanted : Bool) (back : Nat) (m : Matcher)
  | atomic (m : Matcher)
  | entered (number : Nat)
  | choice (condition m n : Matcher)

namespace Regex

/-! ### Preparation -/

/-- The expression as a regular part, if it is one. A group without references to it adds nothing.
Questions about words are not left to automata. -/
def regular? (references : List Nat) : Regex → Option Regular
  | .empty => some .empty
  | .char set => some (.char set)
  | .assertion question => if question.aboutWords then none else some (.assertion question)
  | .seq r s =>
    (regular? references r).bind fun r => (regular? references s).map fun s => .seq r s
  | .alt r s =>
    (regular? references r).bind fun r => (regular? references s).map fun s => .alt r s
  | .repeated r times greedy => (regular? references r).map fun r => .repeated r times greedy
  | .group number r => if references.contains number then none else regular? references r
  | _ => none

/-- Prepares an expression. If it is `last`, nothing that comes later takes its choices back. -/
def prepare (references : List Nat) (last : Bool) (r : Regex) : Matcher :=
  match (if last then regular? references r else none) with
  | some part => .regular part
  | none =>
    match r with
    | .empty => .empty
    | .char set => .char set
    | .assertion question => .assertion question
    | .seq r s => .seq (prepare references false r) (prepare references last s)
    | .alt r s => .alt (prepare references last r) (prepare references last s)
    | .repeated r times greedy =>
      .repeated (prepare references (last && times = ⟨0, some 1⟩) r) times greedy
    | .group number r =>
      if references.contains number then .group number (prepare references last r)
      else prepare references last r
    | .backReference number => .backReference number
    | .lookAhead wanted r => .look wanted 0 (prepare references true r)
    | .lookBehind wanted r => .look wanted ((width? r).getD 0) (prepare references true r)
    | .atomic r => .atomic (prepare references true r)
    | .entered number => .entered number
    | .choice condition r s =>
      .choice (prepare references last condition) (prepare references last r)
        (prepare references last s)

def matcher (references : List Nat) (r : Regex) : Matcher :=
  match regular? references r with
  | some part => .regular part
  | none => prepare references false r

end Regex

namespace Matcher

/-- None of the regular parts is too large. -/
def fits : Matcher → Bool
  | .regular r => r.size ≤ Regular.greatestSize
  | .seq m n => fits m && fits n
  | .alt m n => fits m && fits n
  | .repeated m _ _ => fits m
  | .group _ m => fits m
  | .look _ _ m => fits m
  | .atomic m => fits m
  | .choice condition m n => fits condition && fits m && fits n
  | _ => true

end Matcher

/-! ### Trying -/

/-- A place that matching has reached. `entries` and `exits` have the positions at which the groups
were last entered and left, by their numbers. -/
structure Reach where
  position : Nat
  entries : List (Option Nat)
  exits : List (Option Nat)

namespace Reach

/-- A position at which no group has been entered. -/
def start (groups position : Nat) : Reach :=
  ⟨position, List.replicate (groups + 1) none, List.replicate (groups + 1) none⟩

def enter (reach : Reach) (number : Nat) : Reach :=
  { reach with entries := reach.entries.set number (some reach.position) }

def leave (reach : Reach) (number : Nat) : Reach :=
  { reach with exits := reach.exits.set number (some reach.position) }

/-- What a group has captured: the positions where it begins and ends. -/
def captured? (reach : Reach) (number : Nat) : Option (Nat × Nat) :=
  (reach.entries[number]?.join).bind fun first =>
    (reach.exits[number]?.join).bind fun last =>
      if first ≤ last then some (first, last) else none

end Reach

/-- How an attempt ended: with a match, without one, or with no choices left to take back; `left` is
how many still can be. -/
inductive Attempt where
  | found (reach : Reach) (left : Nat)
  | failed (left : Nat)
  | exhausted

namespace Attempt

/-- The greatest number of choices that are taken back. -/
def limit : Nat := 1000000

/-- Takes a choice back if the attempt failed. -/
def orElse (attempt : Attempt) (next : Nat → Attempt) : Attempt :=
  match attempt with
  | .failed (left + 1) => next left
  | .failed 0 => .exhausted
  | attempt => attempt

/-- Goes on from a match and forgets the choices that were made for it. -/
def commit (attempt : Attempt) (goOn : Reach → Nat → Attempt) : Attempt :=
  match attempt with
  | .found reach left => goOn reach left
  | attempt => attempt

end Attempt

/-- What is tried once a part has matched. -/
abbrev Continuation := Reach → Nat → Attempt

namespace Matcher

/-- Repeats a part. Beyond the least number, a repetition without an upper bound has to get on. -/
def tryRepeated (step : Reach → Continuation → Nat → Attempt) (times : Repetition)
    (greedy : Bool) : Nat → Nat → Reach → Continuation → Nat → Attempt
  | 0, _, _, _, left => .failed left
  | fuel + 1, count, reach, goOn, left =>
    let again (left : Nat) : Attempt :=
      step reach (fun next left =>
        if times.most.isNone && times.least ≤ count && next.position == reach.position then
          .failed left
        else tryRepeated step times greedy fuel (count + 1) next goOn left) left
    if count < times.least then again left
    else if times.most = some count then goOn reach left
    else if greedy then (again left).orElse fun left => goOn reach left
    else (goOn reach left).orElse again

/-- Tries a matcher at a place, and then what comes after it. `left` choices can be taken back. -/
def tryAt (text : Array Char) : Matcher → Reach → Continuation → Nat → Attempt
  | .regular r, reach, goOn, left =>
    match r.ends text reach.position with
    | position :: _ => goOn { reach with position } left
    | [] => .failed left
  | .empty, reach, goOn, left => goOn reach left
  | .char set, reach, goOn, left =>
    match text[reach.position]? with
    | some c =>
      if set.contains c then goOn { reach with position := reach.position + 1 } left
      else .failed left
    | none => .failed left
  | .assertion question, reach, goOn, left =>
    if question.holds text reach.position then goOn reach left else .failed left
  | .seq m n, reach, goOn, left =>
    tryAt text m reach (fun reach left => tryAt text n reach goOn left) left
  | .alt m n, reach, goOn, left =>
    (tryAt text m reach goOn left).orElse fun left => tryAt text n reach goOn left
  | .repeated m times greedy, reach, goOn, left =>
    let fuel := match times.most with
      | some most => most + 1
      | none => times.least + (text.size - reach.position) + 2
    tryRepeated (fun reach goOn left => tryAt text m reach goOn left) times greedy fuel 0 reach
      goOn left
  | .group number m, reach, goOn, left =>
    tryAt text m (reach.enter number) (fun reach left => goOn (reach.leave number) left) left
  | .backReference number, reach, goOn, left =>
    match reach.captured? number with
    | some (first, last) =>
      let length := last - first
      if reach.position + length ≤ text.size ∧
          text.extract first last = text.extract reach.position (reach.position + length) then
        goOn { reach with position := reach.position + length } left
      else .failed left
    | none => .failed left
  | .look wanted back m, reach, goOn, left =>
    let origin := { reach with position := reach.position - back }
    if wanted then
      if back ≤ reach.position then
        tryAt text m origin
          (fun next left => goOn { next with position := reach.position } left) left
      else .failed left
    else
      let attempt : Attempt :=
        if back ≤ reach.position then tryAt text m origin .found left else .failed left
      match attempt with
      | .found _ left => .failed left
      | attempt => attempt.orElse fun left => goOn reach left
  | .atomic m, reach, goOn, left => (tryAt text m reach .found left).commit goOn
  | .entered number, reach, goOn, left =>
    if (reach.entries[number]?.join).isSome then goOn reach left else .failed left
  | .choice condition m n, reach, goOn, left =>
    match tryAt text condition reach .found left with
    | .found reach left => tryAt text m reach goOn left
    | attempt => attempt.orElse fun left => tryAt text n reach goOn left

/-- Tries a matcher at one position after the other. -/
def tryFrom (text : Array Char) (groups : Nat) (m : Matcher) : List Nat → Nat → Attempt
  | [], left => .failed left
  | position :: rest, left =>
    (m.tryAt text (.start groups position) .found left).orElse fun left =>
      tryFrom text groups m rest left

inductive Verdict where
  | found | absent | undecided
deriving DecidableEq

/-- Looks for a matcher in a text. `groups` is the greatest number of a group. -/
def search (m : Matcher) (groups : Nat) (text : String) : Verdict :=
  let characters := text.toList.toArray
  match m.tryFrom characters groups (List.range (characters.size + 1)) Attempt.limit with
  | .found _ _ => .found
  | .failed _ => .absent
  | .exhausted => .undecided

end Matcher

end FormTree
