import FormTree.Path.Dotted
import FormTree.Query.Token

/-!
# Search terms

A `json` search term compares a place in a JSON column with a value. It is written as a list of
elements: pairs of a JSON operator and a key, casts, a comparison, and the value. After a JSON
operator stands a key, whatever it is spelled like.

A term becomes parameterized SQL. Names of columns and tables are restricted to identifiers, and
everything else that a term holds goes into the parameters, so no text from outside is ever part of
the SQL.
-/

namespace FormTree

/-- Paths in an error are positions in the path text. -/
inductive QueryError where
  | notAJsonTerm
  | invalidField (name : String)
  | invalidAlias (name : String)
  | missingOperator
  | missingValue
  | trailingElements
  | unexpectedKey (text : String)
  | invalidElement (text : String)
  | expectedList
  | path (fault : PathError)
deriving DecidableEq

def QueryError.message : QueryError → String
  | .notAJsonTerm => "not a json domain term"
  | .invalidField name => "invalid field name '" ++ name ++ "'"
  | .invalidAlias name => "invalid table alias '" ++ name ++ "'"
  | .missingOperator => "json term has no comparison operator"
  | .missingValue => "json term has no value to compare with"
  | .trailingElements => "unexpected elements after the compared value"
  | .unexpectedKey text => "'" ++ text ++ "' is not a json operator, cast or comparison"
  | .invalidElement text => text ++ " cannot be used as a key"
  | .expectedList => "'in' comparisons need a list value"
  | .path fault => "malformed path: " ++ fault.message

/-- The longest name that a database keeps whole, in bytes. -/
def maxIdentifierLength : Nat := 63

/-- A plain SQL identifier: nothing in it can end the quotes around it. -/
def isIdentifier (name : String) : Bool :=
  match name.toList with
  | [] => false
  | first :: rest =>
    decide (name.utf8ByteSize ≤ maxIdentifierLength) && (first.isAlpha || first == '_') &&
      rest.all fun c => c.isAlphanum || c == '_' || c == '$'

/-- SQL text with `%s` for each parameter. -/
structure SqlFragment where
  sql : String
  params : List Value

structure Term where
  field : String
  steps : List (JsonOperator × KeyStep)
  cast : Option Cast
  comparison : Comparison
  value : Value

namespace Term

/-- The key after a JSON operator. -/
def keyStep (element : Value) : Except QueryError KeyStep :=
  match KeyStep.ofValue? element with
  | some step => .ok step
  | none => .error (.invalidElement element.text)

/-- A term that ends with a comparison and the elements after it. -/
def closing (field : String) (comparison : Comparison) : List Value → Except QueryError Term
  | [] => .error .missingValue
  | [value] =>
    if comparison.expectsList && !(value matches .arr _) then .error .expectedList
    else .ok ⟨field, [], none, comparison, value⟩
  | _ => .error .trailingElements

/-- Puts a step in front of the steps of a term. -/
def consStep (op : JsonOperator) (step : KeyStep) (term : Term) : Term :=
  { term with steps := (op, step) :: term.steps }

/-- A cast that a later one in the term overrides. -/
def withCast (cast : Cast) (term : Term) : Term := { term with cast := term.cast.or (some cast) }

def ofElements (field : String) : List Value → Except QueryError Term
  | [] => .error .missingOperator
  | .str token :: rest =>
    match JsonOperator.ofText? token with
    | some op =>
      match rest with
      | [] => .error .missingOperator
      | element :: rest =>
        (keyStep element).bind fun step => (ofElements field rest).map (consStep op step)
    | none =>
      match Cast.ofText? token with
      | some cast => (ofElements field rest).map (withCast cast)
      | none =>
        match Comparison.ofText? token with
        | some comparison => closing field comparison rest
        | none => .error (.unexpectedKey token)
  | element :: _ => .error (.unexpectedKey element.text)

/-- The term on a field that a list of elements writes. -/
def ofParts (field : String) (elements : List Value) : Except QueryError Term :=
  if isIdentifier field then ofElements field elements else .error (.invalidField field)

/-- The word that makes a leaf of a search a `json` term. -/
def leafWord : String := "json"

/-- The term of a whole leaf: the field, the word `json` and the elements. -/
def ofLeaf : Value → Except QueryError Term
  | .arr [.str field, .str word, .arr elements] =>
    if word = leafWord then ofParts field elements else .error .notAJsonTerm
  | _ => .error .notAJsonTerm

/-- The elements that follow a path; with `text` the last step extracts text. -/
def pathElements (text : Bool) : List String → List Value
  | [] => []
  | [key] => [.str (if text then JsonOperator.getText else JsonOperator.get).text, .str key]
  | key :: rest => .str JsonOperator.get.text :: .str key :: pathElements text rest

/-- The term that follows a path of keys into a field. -/
def ofPath (field : String) (path : List String) (text : Bool) (cast : Option Cast)
    (comparison : Comparison) (value : Value) : Except QueryError Term :=
  if path.isEmpty then .error .missingOperator
  else
    ofParts field (pathElements text path ++ cast.toList.map (fun cast => .str cast.text) ++
      [.str comparison.text, value])

/-- The term that follows a dotted path into a field. -/
def ofEncodedPath (field encoded : String) (text : Bool) (cast : Option Cast)
    (comparison : Comparison) (value : Value) : Except QueryError Term :=
  match Dotted.decode encoded with
  | .ok path => ofPath field path text cast comparison value
  | .error fault => .error (.path fault)

/-- The SQL of a term on the table `alias`, an identifier. -/
def sqlOn (table : String) (term : Term) : String :=
  "((\"" ++ table ++ "\".\"" ++ term.field ++ "\"" ++
    String.join (term.steps.map fun step => step.1.text ++ "%s") ++ ")" ++
    (term.cast.map Cast.text).getD "" ++ " " ++ term.comparison.sql ++ " %s)"

def params (term : Term) : List Value := term.steps.map (fun step => step.2.param) ++ [term.value]

/-- Compiles a term for the table that a query calls `table`. -/
def toSql (term : Term) (table : String) : Except QueryError SqlFragment :=
  if isIdentifier table then .ok ⟨sqlOn table term, term.params⟩ else .error (.invalidAlias table)

end Term

end FormTree
