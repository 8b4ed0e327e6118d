import FormTree.FieldError
import FormTree.Finding
import FormTree.Schema.Node

/-!
# Schemas

A schema is a descriptor whose root is a mapping, with the checker that was built from it. Which
descriptors are accepted, and what their checkers report, is up to what builds the checkers; the
form only reads the descriptor. A schema node is addressed by a structural path, in which every key
of the value stands behind the wrapper `properties`.
-/

namespace FormTree

/-- What builds the checker of a descriptor, unless it finds fault with the descriptor. -/
abbrev Builder := Value → Except SchemaFault Checker

structure Schema where
  root : Value
  isMapping : root.isContainer = true
  check : Checker

namespace Schema

/-- The schema of a descriptor. The root is looked at before the descriptor goes to the builder. -/
def compileBy (build : Builder) (root : Value) : Except FieldError Schema :=
  if h : root.isContainer = true then
    match build root with
    | .ok check => .ok ⟨root, h, check⟩
    | .error fault => .error (.invalidSchema fault)
  else .error (.invalidSchema .notAnObject)

/-- The schema of a form's schema slot, where `null` and `false` stand for no schema. -/
def ofSlotBy (build : Builder) : Value → Except FieldError (Option Schema)
  | .null => .ok none
  | .bool false => .ok none
  | root => (compileBy build root).map some

def findings (schema : Schema) (v : Value) : List Finding := schema.check.findings v

/-- Two schemas are the same if their descriptors are. -/
def same (a b : Schema) : Bool := a.root.same b.root

/-- The rest of a structural path, from the node that `done` led to. -/
def nodeFrom (done : List String) (node : Value) : List String → Except FieldError Value
  | [] => .ok node
  | segment :: rest =>
    match node.member? segment with
    | some next => nodeFrom (done ++ [segment]) next rest
    | none => .error (.structuralMismatch (Dotted.encode (valuePath done)) segment .undeclared)

/-- The node at a structural path. Every key that the form reaches must be declared, so a segment
that is missing is a mismatch at the node before it. -/
def nodeAt (schema : Schema) (structural : List String) : Except FieldError Value :=
  nodeFrom [] schema.root structural

end Schema

end FormTree
