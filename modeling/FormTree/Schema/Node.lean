import FormTree.Value.Lookup
import FormTree.Path.Pointer

/-!
# Schema nodes

A schema is itself a value, and so is each of its nodes. This is the part of a node that the form
reads: its types, its properties, the names it requires and its format. A node that says something
else in one of these places says nothing there.
-/

namespace FormTree

namespace SchemaNode

def texts (items : List Value) : List String := items.filterMap Value.string?

/-- The declared type names, in the order of declaration. -/
def typeNames (node : Value) : List String :=
  match node.member? "type" with
  | some (.str name) => [name]
  | some (.arr names) => texts names
  | _ => []

/-- The declared type names but for `null`, which only says that the value may be missing. -/
def nonNullTypes (node : Value) : List String := (typeNames node).filter (· ≠ "null")

def isNullable (node : Value) : Bool := (typeNames node).contains "null"

/-- The node declares a mapping and nothing else, so its rows go on below it. -/
def isObject (node : Value) : Bool := nonNullTypes node = ["object"]

def format? (node : Value) : Option String := (node.member? "format").bind Value.string?

def properties? (node : Value) : Option (List (String × Value)) :=
  (node.member? Pointer.wrapper).bind Value.members?

/-- The properties of a node, none if it declares none. -/
def properties (node : Value) : List (String × Value) := (properties? node).getD []

def property? (node : Value) (key : String) : Option Value :=
  (properties? node).bind (Members.find? key)

def required (node : Value) : List String :=
  match node.member? "required" with
  | some (.arr names) => texts names
  | _ => []

def isRequired (node : Value) (key : String) : Bool := (required node).contains key

/-- The node reached by properties alone. -/
def descend? : Value → KeyPath → Option Value
  | node, [] => some node
  | node, key :: rest => (property? node key).bind fun child => descend? child rest

end SchemaNode

end FormTree
