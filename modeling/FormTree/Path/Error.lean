/-!
# Faults of path texts

Positions are byte offsets, in UTF-8, into the text that is read.
-/

namespace FormTree

inductive PathError where
  | unbalancedEscape (position : Nat)
  | straySeparator (position : Nat)
  | notAbsolute
  | badPointerEscape (position : Nat)
  | notStructural (pointer : String)
deriving DecidableEq

def PathError.message : PathError → String
  | .unbalancedEscape position =>
    "unbalanced escape at byte " ++ toString position ++ " in path string"
  | .straySeparator position =>
    "stray separator character at byte " ++ toString position ++ " in path string"
  | .notAbsolute => "json pointer must be absolute or empty"
  | .badPointerEscape position =>
    "invalid '~' escape at byte " ++ toString position ++ " in json pointer"
  | .notStructural pointer => "'" ++ pointer ++ "' does not address a schema property"

end FormTree
