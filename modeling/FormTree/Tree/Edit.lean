import FormTree.Tree.Growth
import FormTree.Widget

/-!
# Edits

The edits of a value, each a function from a root to a root. An edit that is refused yields an error
and no root. A key is added in two steps: first as an empty placeholder, which is then given a name
or given up, and `PendingEdit` is what is remembered in between.
-/

namespace FormTree

/-- A key that is being named: where it is, and what is to be put back if the edit is given up. -/
structure PendingEdit where
  path : KeyPath
  saved : Value

namespace PendingEdit

/-- The edit is of a key that was added for it, whose name is still empty. -/
def isNewKey (pending : PendingEdit) : Bool := pending.path.getLast? = some ""

def encodedPath (pending : PendingEdit) : String := Dotted.encode pending.path

end PendingEdit

namespace Edit

def node (root : Value) (path : KeyPath) : Except FieldError Value :=
  match root.get? path with
  | some v => .ok v
  | none => .error (.nothingAt path)

def replace (root : Value) (path : KeyPath) (new : Value) : Except FieldError Value :=
  match root.replace? path new with
  | some root => .ok root
  | none => .error (.nothingAt path)

/-- The path of the parent and the last key; the root has neither. -/
def splitLast (path : KeyPath) : Except FieldError (KeyPath × String) :=
  match path.getLast? with
  | some key => .ok (path.dropLast, key)
  | none => .error (.notFound "")

def mappingAt (root : Value) (path : KeyPath) : Except FieldError (List (String × Value)) :=
  (node root path).bind fun v =>
    match v.members? with
    | some members => .ok members
    | none => .error (.noMappingAt path)

/-- The members of a node; a node that is no mapping has none. -/
def membersOf (v : Value) : List (String × Value) := v.members?.getD []

/-- Adds an empty key at the node at `path`. A node that is no mapping is replaced by one, so the
whole old node is saved. -/
def addKey (root : Value) (path : KeyPath) : Except FieldError (Value × PendingEdit) :=
  (node root path).bind fun old =>
    if Members.has "" (membersOf old) then .error (.keyCollision "")
    else
      (replace root path (.obj (Members.put "" (.str "") (membersOf old)))).map fun root =>
        (root, ⟨path ++ [""], old⟩)

/-- Gives the last key of `path` another name within its mapping. -/
def renameKey (root : Value) (path : KeyPath) (newKey : String) : Except FieldError Value :=
  (splitLast path).bind fun (parent, key) =>
    if newKey = "" then .error .emptyKey
    else
      (mappingAt root parent).bind fun members =>
        match Members.find? key members with
        | none => .error (.nothingAt path)
        | some moved =>
          if newKey = key then .ok root
          else if Members.has newKey members then .error (.keyCollision newKey)
          else replace root parent (.obj (Members.put newKey moved (Members.remove key members)))

/-- Gives a pending edit up. A key that was added for it goes away with everything that happened at
its parent; a key that was there before stays as it is. -/
def abandonKeyEdit (root : Value) (pending : PendingEdit) : Except FieldError Value :=
  if !pending.isNewKey then .ok root
  else replace root pending.path.dropLast pending.saved

/-- Takes the last key of `path` out of its mapping. -/
def deleteKey (root : Value) (path : KeyPath) : Except FieldError Value :=
  (splitLast path).bind fun (parent, key) =>
    (mappingAt root parent).bind fun members =>
      if Members.has key members then replace root parent (.obj (Members.remove key members))
      else .error (.nothingAt path)

def setValue (root : Value) (path : KeyPath) (raw : String) (kind : InputKind) :
    Except FieldError Value :=
  (splitLast path).bind fun _ => (coerce raw kind).bind fun new => root.store path new

end Edit

end FormTree
