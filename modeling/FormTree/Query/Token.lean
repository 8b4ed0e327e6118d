import FormTree.Value.Printer

/-!
# Tokens of a search term

The words of a `json` search term: operators that step into a JSON column, casts, and comparisons.
Each kind has a spelling in terms, read by `ofText?`, and a spelling in SQL.
-/

namespace FormTree

/-- A step into JSON: the result is JSON again, or text. -/
inductive JsonOperator where
  | get | getText
deriving DecidableEq

namespace JsonOperator

def text : JsonOperator → String
  | .get => "->"
  | .getText => "->>"

def ofText? : String → Option JsonOperator
  | "->" => some .get
  | "->>" => some .getText
  | _ => none

theorem ofText?_text (op : JsonOperator) : ofText? op.text = some op := by cases op <;> rfl

end JsonOperator

/-- What the found text is read as before it is compared. -/
inductive Cast where
  | int | date
deriving DecidableEq

namespace Cast

def text : Cast → String
  | .int => "::INT"
  | .date => "::DATE"

/-- The case of ASCII letters does not count. -/
def ofText? (text : String) : Option Cast :=
  match String.ofList (text.toList.map Char.toUpper) with
  | "::INT" => some .int
  | "::DATE" => some .date
  | _ => none

theorem ofText?_text (cast : Cast) : ofText? cast.text = some cast := by cases cast <;> rfl

end Cast

inductive Comparison where
  | eq | ne | lt | le | gt | ge
  | like | notLike | ilike | notIlike
  | isIn | notIn
deriving DecidableEq

namespace Comparison

def text : Comparison → String
  | .eq => "="
  | .ne => "!="
  | .lt => "<"
  | .le => "<="
  | .gt => ">"
  | .ge => ">="
  | .like => "like"
  | .notLike => "not like"
  | .ilike => "ilike"
  | .notIlike => "not ilike"
  | .isIn => "in"
  | .notIn => "not in"

def sql : Comparison → String
  | .eq => "="
  | .ne => "!="
  | .lt => "<"
  | .le => "<="
  | .gt => ">"
  | .ge => ">="
  | .like => "LIKE"
  | .notLike => "NOT LIKE"
  | .ilike => "ILIKE"
  | .notIlike => "NOT ILIKE"
  | .isIn => "IN"
  | .notIn => "NOT IN"

/-- Three comparisons have a second spelling in terms. -/
def ofText? : String → Option Comparison
  | "=" => some .eq
  | "!=" => some .ne
  | "<>" => some .ne
  | "<" => some .lt
  | "<=" => some .le
  | ">" => some .gt
  | ">=" => some .ge
  | "like" => some .like
  | "=like" => some .like
  | "not like" => some .notLike
  | "ilike" => some .ilike
  | "=ilike" => some .ilike
  | "not ilike" => some .notIlike
  | "in" => some .isIn
  | "not in" => some .notIn
  | _ => none

/-- Compares with the members of a list. -/
def expectsList : Comparison → Bool
  | .isIn | .notIn => true
  | _ => false

theorem ofText?_text (comparison : Comparison) : ofText? comparison.text = some comparison := by
  cases comparison <;> rfl

end Comparison

/-- A key of an object or an index of an array in a JSON column. -/
inductive KeyStep where
  | key (key : String)
  | index (i : Int)
deriving DecidableEq

namespace KeyStep

/-- An index fits a signed word of 64 bits. -/
def ofValue? : Value → Option KeyStep
  | .str name => some (.key name)
  | .num (.int i) =>
    if -0x8000000000000000 ≤ i ∧ i < 0x8000000000000000 then some (.index i) else none
  | _ => none

/-- The value that stands for the step among the parameters of a query. -/
def param : KeyStep → Value
  | .key name => .str name
  | .index i => .num (.int i)

def text : KeyStep → String
  | .key name => name
  | .index i => toString i

end KeyStep

end FormTree
