import FormTree.Widget

/-!
# Outlines

The outline of a form is the tree of its rows before any content is looked at: which keys there are,
which of them have rows below them, and which widget a leaf gets. Without a schema it is the shape
of the value itself; with one it follows the declared properties through the nodes that are objects.
-/

namespace FormTree

inductive Outline where
  | leaf (kind : InputKind)
  | group (branches : List (String × Bool × Outline))

namespace Outline

/-- A key of a group, whether it is required, and what is below it. -/
abbrev Branch := String × Bool × Outline

def isGroup : Outline → Bool
  | .group _ => true
  | .leaf _ => false

def keys (branches : List Branch) : List String := branches.map Prod.fst

mutual

def ofValue : Value → Outline
  | .obj members => .group (ofMembers members)
  | _ => .leaf .text

def ofMembers : List (String × Value) → List Branch
  | [] => []
  | (key, v) :: rest => (key, false, ofValue v) :: ofMembers rest

end

mutual

def ofNode : Value → List Branch
  | .obj keywords => ofKeywords (SchemaNode.required (.obj keywords)) keywords
  | _ => []

/-- The branches under the wrapper, if it is among the keywords. -/
def ofKeywords (required : List String) : List (String × Value) → List Branch
  | [] => []
  | (keyword, v) :: rest =>
    if keyword = Pointer.wrapper then ofDeclaration required v else ofKeywords required rest

def ofDeclaration (required : List String) : Value → List Branch
  | .obj nodes => ofProperties required nodes
  | _ => []

def ofProperties (required : List String) : List (String × Value) → List Branch
  | [] => []
  | (key, node) :: rest =>
    (key, required.contains key,
      if SchemaNode.isObject node then .group (ofNode node) else .leaf (.ofNode node)) ::
      ofProperties required rest

end

/-- The outline of a form. The root of a schema is a group, whatever its type. -/
def of (v : Value) (schema : Option Schema) : Outline :=
  match schema with
  | none => ofValue v
  | some schema => .group (ofNode schema.root)

end Outline

end FormTree
