import FormTree.Path.Dotted
import FormTree.Value.Printer

/-!
# Errors of the form

Why an operation on a form was refused. A cause carries what its message needs, and `message` is the
one place where causes are put into words. A failed operation never changes anything.
-/

namespace FormTree

/-- How a value and its schema disagree on shape. -/
inductive Disagreement where
  | undeclared
  | scalar
deriving DecidableEq

def Disagreement.message : Disagreement → String
  | .undeclared => "is not declared by the schema"
  | .scalar => "holds a scalar where the schema declares an object"

inductive SchemaFault where
  | notAnObject
  | malformed
  | badPattern (pattern : String)
  /-- What else the builder of a checker objects to, in its own words. -/
  | refused (place reason : String)
deriving DecidableEq

namespace SchemaFault

/-- The pointer of the broken keyword in the meta-schema, where one is given. -/
def place : SchemaFault → String
  | .refused place _ => place
  | _ => ""

def message : SchemaFault → String
  | .notAnObject => "schema root must be an object"
  | .malformed => "a keyword has a value of the wrong form"
  | .badPattern pattern => Value.quote pattern ++ " is not a \"regex\""
  | .refused _ reason => reason

end SchemaFault

inductive SettingsFault where
  | unreadable
  | badDatePattern (setting pattern : String)
deriving DecidableEq

def SettingsFault.message : SettingsFault → String
  | .unreadable => "the text does not hold settings"
  | .badDatePattern setting pattern => setting ++ ": invalid date pattern '" ++ pattern ++ "'"

/-- Paths in an error are dotted paths of value keys. -/
inductive FieldError where
  | structuralMismatch (path key : String) (how : Disagreement)
  | keyCollision (key : String)
  | emptyKey
  | malformedPath (fault : PathError)
  | notFound (path : String)
  | notAContainer (path : String)
  | invalidNumber (input : String)
  | editInProgress (path : String)
  | noPendingEdit
  | pendingPathMismatch (pending requested : String)
  | schemaGoverned
  | invalidSchema (fault : SchemaFault)
  | settings (fault : SettingsFault)
deriving DecidableEq

namespace FieldError

def message : FieldError → String
  | .structuralMismatch path key how =>
    "structural mismatch at '" ++ path ++ "': key '" ++ key ++ "' " ++ how.message
  | .keyCollision key => "key '" ++ key ++ "' already exists"
  | .emptyKey => "key must not be empty"
  | .malformedPath fault => "malformed path: " ++ fault.message
  | .notFound path => "no node at '" ++ path ++ "'"
  | .notAContainer path => "node at '" ++ path ++ "' is not a mapping"
  | .invalidNumber input => "'" ++ input ++ "' is not a valid number"
  | .editInProgress path => "a key edit is already in progress at '" ++ path ++ "'"
  | .noPendingEdit => "no key edit in progress"
  | .pendingPathMismatch pending requested =>
    "pending key edit is at '" ++ pending ++ "', not '" ++ requested ++ "'"
  | .schemaGoverned => "keys are governed by the schema and cannot be edited"
  | .invalidSchema fault => "invalid schema at '" ++ fault.place ++ "': " ++ fault.message
  | .settings fault => "invalid configuration: " ++ fault.message

/-- The refusal is of what was typed, to be shown beside the input, and not of a broken
interaction. -/
def isRejection : FieldError → Bool
  | .keyCollision _ | .emptyKey | .invalidNumber _ | .schemaGoverned => true
  | _ => false

def nothingAt (path : List String) : FieldError := .notFound (Dotted.encode path)

def noMappingAt (path : List String) : FieldError := .notAContainer (Dotted.encode path)

end FieldError

end FormTree
