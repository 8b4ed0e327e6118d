import FormTree.FieldError
import FormTree.Value.Lookup

/-!
# Growing a value

`materialize` makes sure that a value has a node at a path. What is missing on the way there becomes
an empty mapping, and so does a `null` on the way; any other node that is no mapping is in the way,
and then nothing changes. The result is the value as it is left, with or without an error, and
whether anything was created.
-/

namespace FormTree

namespace Value

/-- The members of a node that is a mapping or may become one, and whether it had to. -/
def roomFor? : Value → Option (List (String × Value) × Bool)
  | .null => some ([], true)
  | .obj members => some (members, false)
  | _ => none

/-- What is created at the end of a path, or on the way to it. -/
def fresh (container isLast : Bool) : Value := if isLast && !container then .null else .obj []

/-- `materialize` below the node that the keys `done` led to. A key that is missing is entered
first, and then there is to be a node at it. -/
def grow (container : Bool) (done : KeyPath) : Value → KeyPath → Value × Except FieldError Bool
  | v, [] => if container && v.isNull then (.obj [], .ok true) else (v, .ok false)
  | v, key :: rest =>
    match v.roomFor? with
    | none => (v, .error (.noMappingAt done))
    | some (members, opened) =>
      let missing := !Members.has key members
      let members :=
        if missing then Members.put key (fresh container rest.isEmpty) members else members
      match Members.find? key members with
      | none => (.obj members, .error (.nothingAt (done ++ [key])))
      | some child =>
        let (grown, result) := grow container (done ++ [key]) child rest
        (.obj (Members.assign key grown members), result.map (opened || missing || ·))

/-- Makes sure that there is a node at `path`, a mapping if a container is wanted. -/
def materialize (v : Value) (path : KeyPath) (container : Bool) : Value × Except FieldError Bool :=
  grow container [] v path

/-- The value with `new` at a path, everything missing on the way created as empty mappings. -/
def storeFrom (done : KeyPath) : Value → KeyPath → Value → Except FieldError Value
  | _, [], new => .ok new
  | v, key :: rest, new =>
    match v.roomFor? with
    | none => .error (.noMappingAt done)
    | some (members, _) =>
      let child := (Members.find? key members).getD (.obj [])
      (storeFrom (done ++ [key]) child rest new).map fun child =>
        .obj (Members.put key child members)

/-- Stores `new` at a path, creating what is missing on the way. -/
def store (v : Value) (path : KeyPath) (new : Value) : Except FieldError Value :=
  storeFrom [] v path new

end Value

end FormTree
