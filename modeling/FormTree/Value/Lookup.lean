import FormTree.Value.Basic

/-!
# Nodes by key path

A key path leads from the root of a value through mappings; arrays are leaves, so no key enters one.
`get?` finds the node at a path and `replace?` puts another node there. The two see the same paths,
and the equations between them are those of a lens.
-/

namespace FormTree

/-- The keys from the root of a value to one of its nodes. -/
abbrev KeyPath := List String

namespace Value

def get? : Value → KeyPath → Option Value
  | v, [] => some v
  | v, key :: rest => (v.member? key).bind fun child => get? child rest

/-- The mapping with another value at a key that it has. -/
def withMember (v : Value) (key : String) (new : Value) : Value :=
  match v with
  | .obj members => .obj (Members.assign key new members)
  | v => v

/-- The value with another node at a path, if the path leads to a node. -/
def replace? : Value → KeyPath → Value → Option Value
  | _, [], new => some new
  | v, key :: rest, new =>
    (v.member? key).bind fun child =>
      (replace? child rest new).map fun child => v.withMember key child

@[simp] theorem get?_nil (v : Value) : v.get? [] = some v := rfl

theorem get?_cons (v : Value) (key : String) (rest : KeyPath) :
    v.get? (key :: rest) = (v.member? key).bind (get? · rest) := rfl

@[simp] theorem replace?_nil (v new : Value) : v.replace? [] new = some new := rfl

theorem get?_append (v : Value) (p q : KeyPath) :
    v.get? (p ++ q) = (v.get? p).bind (get? · q) := by
  induction p generalizing v with
  | nil => rfl
  | cons key rest ih =>
    simp only [List.cons_append, get?_cons, ih, Option.bind_assoc]

/-- A path can be written to exactly when it can be read. -/
theorem isSome_replace? (v : Value) (p : KeyPath) (new : Value) :
    (v.replace? p new).isSome = (v.get? p).isSome := by
  induction p generalizing v with
  | nil => rfl
  | cons key rest ih =>
    simp only [replace?, get?]
    cases v.member? key with
    | none => rfl
    | some child => simpa using ih child

end Value

end FormTree
