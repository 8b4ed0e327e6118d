import FormTree.Schema.Basic

/-!
# Children

The children of one node of the form. Without a schema they are the members of the value; with one
they are the declared properties, and the value may hold nothing else there. A value node that is
absent or `null` is no objection, as it can still be created.
-/

namespace FormTree

structure Child where
  key : String
  isContainer : Bool
  structural : List String
  path : KeyPath
  /-- The schema node of the child, if a schema governs the form. -/
  node : Option Value

namespace Child

/-- The first disagreement of the value at a path with the keys that are declared for it. -/
def objection? (v : Value) (declared : List String) (path : KeyPath) : Option FieldError :=
  match v.get? path with
  | none => none
  | some .null => none
  | some (.obj members) =>
    ((Members.keys members).find? fun key => !declared.contains key).map fun key =>
      .structuralMismatch (Dotted.encode path) key .undeclared
  | some _ =>
    some (.structuralMismatch (Dotted.encode path) (path.getLast?.getD "") .scalar)

def ofMember (path : KeyPath) (member : String × Value) : Child :=
  ⟨member.1, member.2.isContainer, path ++ [member.1], path ++ [member.1], none⟩

def ofProperty (structural : List String) (property : String × Value) : Child :=
  ⟨property.1, SchemaNode.isObject property.2, structural ++ [Pointer.wrapper, property.1],
    valuePath structural ++ [property.1], some property.2⟩

/-- The children of a mapping without a schema. -/
def listBare (v : Value) (path : KeyPath) : Except FieldError (List Child) :=
  match v.get? path with
  | none => .error (.nothingAt path)
  | some (.obj members) => .ok (members.map (ofMember path))
  | some _ => .error (.noMappingAt path)

def listDeclared (v : Value) (schema : Schema) (structural : List String) :
    Except FieldError (List Child) :=
  (schema.nodeAt structural).bind fun node =>
    let properties := SchemaNode.properties node
    match objection? v (Members.keys properties) (valuePath structural) with
    | some fault => .error fault
    | none => .ok (properties.map (ofProperty structural))

/-- The children at a structural path, in the order of their keys. -/
def list (v : Value) (schema : Option Schema) (structural : List String) :
    Except FieldError (List Child) :=
  match schema with
  | none => listBare v structural
  | some schema => listDeclared v schema structural

end Child

end FormTree
