import FormTree.Regex.Matcher
import FormTree.Regex.Reader
import FormTree.Regex.Standard

/-!
# Patterns

The expression that the text of a pattern denotes. The standard grammar decides first: what it
refuses is no pattern, and where it suffices the shorthands of sets have their narrow meaning. A
text with notation that it lacks is left to the extended grammar alone, and there the shorthands
have their wide meaning.
-/

namespace FormTree

/-- A regular expression, prepared for matching, with the text that denotes it. No group that it
refers to has a number above `groups`. -/
structure Pattern where
  source : String
  matcher : Matcher
  groups : Nat

namespace Pattern

def control (letter : Char) : Char := Char.ofNat (letter.toNat % 32)

/-- The text with its control escapes replaced by their characters, and whether it needs the
extended grammar. Only escapes before the first notation of that grammar are replaced. -/
def plain? : Nat → List Char → Option (List Char × Bool)
  | 0, _ => none
  | fuel + 1, text =>
    match Regex.Standard.check text with
    | .ok () => some (text, false)
    | .error .beyond => some (text, true)
    | .error (.control (letter :: rest)) =>
      plain? fuel (text.take (text.length - rest.length - 3) ++ control letter :: rest)
    | .error _ => none

/-- The pattern that a text denotes, if it denotes one that is not too large. Replacing an escape
makes the text shorter. -/
def read? (source : String) : Option Pattern :=
  (plain? (source.length + 1) source.toList).bind fun (text, wide) =>
    (Regex.extended? wide text).bind fun (regex, references) =>
      let matcher := regex.matcher references
      if matcher.fits then some ⟨source, matcher, references.foldl max 0⟩ else none

def search (pattern : Pattern) (text : String) : Matcher.Verdict :=
  pattern.matcher.search pattern.groups text

end Pattern

end FormTree
