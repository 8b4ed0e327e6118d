import FormTree.Proofs.Form.Fill
import FormTree.Proofs.Path.Pointer
import FormTree.Proofs.Schema.Node

/-!
# Listing the children of a path

The children of a node are listed along a structural path, and each carries both of its paths and
its node of the schema. They stay aligned at every level: the structural path of a child is its
value path with the wrappers, and leads to the node that the child has (`Child.StandsBelow`). The
node is listed if the schema has one there and the value has room for its properties
(`Child.list_eq_ok_iff`); otherwise the objection names the first key that is not declared, or the
last key of the path if no mapping is held there.
-/

namespace FormTree

open Value

namespace Child

variable {v node : Value} {schema : Schema} {structural declared : List String} {path : KeyPath}
  {key : String} {members : List (String × Value)}

/-! ### What is listed -/

theorem list_eq_ok_iff {children : List Child} :
    list v (some schema) structural = .ok children ↔
      ∃ node, schema.nodeAt structural = .ok node ∧
        Admits (Members.keys (SchemaNode.properties node)) (v.get? (valuePath structural)) ∧
        children = (SchemaNode.properties node).map (ofProperty structural) := by
  constructor
  · intro hlist
    cases hnode : schema.nodeAt structural with
    | error fault =>
      rw [list, listDeclared, hnode] at hlist
      cases hlist
    | ok node =>
      cases hobjection : objection? v (Members.keys (SchemaNode.properties node))
          (valuePath structural) with
      | some fault =>
        rw [list_eq_error hnode hobjection] at hlist
        cases hlist
      | none =>
        rw [list_eq_ok hnode hobjection] at hlist
        exact ⟨node, rfl, objectionTo?_eq_none_iff.1 hobjection, (Except.ok.inj hlist).symm⟩
  · intro hnode
    obtain ⟨node, hnode, hadmits, rfl⟩ := hnode
    exact list_eq_ok hnode (objectionTo?_eq_none_iff.2 hadmits)

/-- The child stands one key below the path, and its structural path is that of its value path and
leads to its own node of the schema. -/
structure StandsBelow (schema : Schema) (path : KeyPath) (child : Child) : Prop where
  path_eq : child.path = path ++ [child.key]
  structural_eq : child.structural = structuralPath child.path
  unwrapped : valuePath child.structural = child.path
  governed : ∃ node, child.node = some node ∧ schema.nodeAt child.structural = .ok node ∧
    child.isContainer = SchemaNode.isObject node

theorem standsBelow_ofProperty (hschema : schema.root.Ordered)
    (hnode : schema.nodeAt (structuralPath path) = .ok node) {property : String × Value}
    (hproperty : property ∈ SchemaNode.properties node) :
    (ofProperty (structuralPath path) property).StandsBelow schema path := by
  obtain ⟨key, child⟩ := property
  have hpath : (ofProperty (structuralPath path) (key, child)).path = path ++ [key] := by
    rw [ofProperty, valuePath_structuralPath]
  have hstructural : (ofProperty (structuralPath path) (key, child)).structural =
      structuralPath (path ++ [key]) := (structuralPath_concat path key).symm
  have hparent : SchemaNode.descend? schema.root path = some node :=
    Schema.nodeFrom_structuralPath_eq_ok.1 hnode
  have hordered : node.Ordered := SchemaNode.ordered_of_descend? hschema hparent
  have hchild : SchemaNode.descend? schema.root (path ++ [key]) = some child := by
    rw [SchemaNode.descend?_concat, hparent, Option.bind_some, SchemaNode.property?_eq_find?]
    exact Members.find?_of_mem (SchemaNode.nodup_properties hordered) hproperty
  refine ⟨hpath, ?_, ?_, child, rfl, ?_, rfl⟩
  · rw [hstructural, hpath]
  · rw [hstructural, hpath, valuePath_structuralPath]
  · rw [hstructural]
    exact Schema.nodeFrom_structuralPath_eq_ok.2 hchild

theorem map_key_ofProperty (structural : List String) (properties : List (String × Value)) :
    (properties.map (ofProperty structural)).map Child.key = Members.keys properties := by
  rw [List.map_map]
  rfl

theorem aligned_of_list_eq_ok (hschema : schema.root.Ordered)
    (hnode : schema.nodeAt (structuralPath path) = .ok node) {children : List Child}
    (hlist : list v (some schema) (structuralPath path) = .ok children) :
    children.map Child.key = Members.keys (SchemaNode.properties node) ∧
      (children.map Child.key).Pairwise (· < ·) ∧
      ∀ child ∈ children, child.StandsBelow schema path := by
  obtain ⟨listed, hlisted, -, rfl⟩ := list_eq_ok_iff.1 hlist
  obtain rfl : node = listed := Except.ok.inj (hnode.symm.trans hlisted)
  have hparent : SchemaNode.descend? schema.root path = some node :=
    Schema.nodeFrom_structuralPath_eq_ok.1 hnode
  have hordered : node.Ordered := SchemaNode.ordered_of_descend? hschema hparent
  rw [map_key_ofProperty]
  refine ⟨rfl, SchemaNode.ordered_properties hordered, ?_⟩
  intro child hchild
  obtain ⟨property, hproperty, rfl⟩ := List.mem_map.1 hchild
  exact standsBelow_ofProperty hschema hnode hproperty

/-! ### What is objected to -/

/-- The least key of the members that is not declared. -/
structure FirstUndeclared (declared : List String) (members : List (String × Value))
    (key : String) : Prop where
  held : key ∈ Members.keys members
  undeclared : key ∉ declared
  least : ∀ other ∈ Members.keys members, other ∉ declared → other = key ∨ key < other

theorem FirstUndeclared.unique {other : String} (h : FirstUndeclared declared members key)
    (hother : FirstUndeclared declared members other) : key = other := by
  rcases h.least other hother.held hother.undeclared with heq | hlt
  · exact heq.symm
  · rcases hother.least key h.held h.undeclared with heq | hgt
    · exact heq
    · exact absurd hgt (String.lt_asymm hlt)

/-- Among members in order, the first key that fails is the least one. -/
theorem firstUndeclared_of_find? (hmembers : Members.Ordered members)
    (h : (Members.keys members).find? (fun key => !declared.contains key) = some key) :
    FirstUndeclared declared members key := by
  obtain ⟨hkey, before, after, hkeys, hbefore⟩ := List.find?_eq_some_iff_append.1 h
  refine ⟨List.mem_of_find?_eq_some h, by simpa using hkey, ?_⟩
  intro other hother hundeclared
  rw [hkeys] at hother
  rcases List.mem_append.1 hother with hearlier | hlater
  · exact absurd (by simpa using hbefore other hearlier) hundeclared
  · rcases List.mem_cons.1 hlater with heq | hafter
    · exact .inl heq
    · rw [Members.Ordered, hkeys] at hmembers
      have hrest := (List.pairwise_append.1 hmembers).2.1
      exact .inr ((List.pairwise_cons.1 hrest).1 other hafter)

theorem exists_objectionTo?_of_undeclared (hmembers : Members.Ordered members)
    (h : ∃ key ∈ Members.keys members, key ∉ declared) (path : KeyPath) :
    ∃ key, FirstUndeclared declared members key ∧
      objectionTo? (some (.obj members)) declared path =
        some (.structuralMismatch (Dotted.encode path) key .undeclared) := by
  have hsome : ((Members.keys members).find? fun key => !declared.contains key).isSome = true := by
    rw [List.find?_isSome]
    obtain ⟨key, hkey, hundeclared⟩ := h
    exact ⟨key, hkey, by simpa using hundeclared⟩
  obtain ⟨key, hfind⟩ := Option.isSome_iff_exists.1 hsome
  exact ⟨key, firstUndeclared_of_find? hmembers hfind, by rw [objectionTo?, hfind, Option.map_some]⟩

theorem objectionTo?_of_leaf {held : Value} (hnull : held.isNull = false)
    (hleaf : held.isContainer = false) (declared : List String) (path : KeyPath) :
    objectionTo? (some held) declared path =
      some (.structuralMismatch (Dotted.encode path) (path.getLast?.getD "") .scalar) := by
  cases held with
  | null => exact Bool.noConfusion hnull
  | obj members => exact Bool.noConfusion hleaf
  | _ => rfl

theorem list_eq_error_of_objectionTo? (hnode : schema.nodeAt (structuralPath path) = .ok node)
    {fault : FieldError}
    (hfault : objectionTo? (v.get? path) (Members.keys (SchemaNode.properties node)) path =
      some fault) :
    list v (some schema) (structuralPath path) = .error fault := by
  apply list_eq_error hnode
  rw [objection?_eq, valuePath_structuralPath, hfault]

/-- The children of a node are listed exactly if the schema has a node at the structural path of the
value path, and the value has nothing there, `null` or a mapping with declared keys only. They are
then the properties of the node, in strictly increasing order, and each stands aligned below the
path. Otherwise the error is that of the lookup in the schema, or a mismatch at the value path,
about the least key that is not declared or about the last key of the path. -/
theorem listing_keeps_paths_aligned (hv : v.Ordered) (hschema : schema.root.Ordered)
    (path : KeyPath) :
    ((∃ children, list v (some schema) (structuralPath path) = .ok children) ↔
      ∃ node, schema.nodeAt (structuralPath path) = .ok node ∧
        Admits (Members.keys (SchemaNode.properties node)) (v.get? path)) ∧
    (∀ fault, schema.nodeAt (structuralPath path) = .error fault →
      list v (some schema) (structuralPath path) = .error fault) ∧
    ∀ node, schema.nodeAt (structuralPath path) = .ok node →
      (∀ children, list v (some schema) (structuralPath path) = .ok children →
        children.map Child.key = Members.keys (SchemaNode.properties node) ∧
        (children.map Child.key).Pairwise (· < ·) ∧
        ∀ child ∈ children, child.StandsBelow schema path) ∧
      (∀ members, v.get? path = some (.obj members) →
        (∃ key ∈ Members.keys members, key ∉ Members.keys (SchemaNode.properties node)) →
        ∃ key, FirstUndeclared (Members.keys (SchemaNode.properties node)) members key ∧
          list v (some schema) (structuralPath path) =
            .error (.structuralMismatch (Dotted.encode path) key .undeclared)) ∧
      ∀ held, v.get? path = some held → held.isNull = false → held.isContainer = false →
        list v (some schema) (structuralPath path) =
          .error (.structuralMismatch (Dotted.encode path) (path.getLast?.getD "") .scalar) := by
  refine ⟨?_, ?_, ?_⟩
  · simp only [list_eq_ok_iff, valuePath_structuralPath]
    constructor
    · intro hlist
      obtain ⟨children, node, hnode, hadmits, -⟩ := hlist
      exact ⟨node, hnode, hadmits⟩
    · intro hnode
      obtain ⟨node, hnode, hadmits⟩ := hnode
      exact ⟨_, node, hnode, hadmits, rfl⟩
  · intro fault hfault
    rw [list, listDeclared, hfault]
    rfl
  · intro node hnode
    refine ⟨fun children => aligned_of_list_eq_ok hschema hnode, ?_, ?_⟩
    · intro members hmembers hundeclared
      have hordered : (Value.obj members).Ordered := hv.of_get? hmembers
      obtain ⟨key, hfirst, hfault⟩ :=
        exists_objectionTo?_of_undeclared hordered.1 hundeclared path
      refine ⟨key, hfirst, list_eq_error_of_objectionTo? hnode ?_⟩
      rw [hmembers, hfault]
    · intro held hheld hnull hleaf
      apply list_eq_error_of_objectionTo? hnode
      rw [hheld, objectionTo?_of_leaf hnull hleaf]

theorem first_of_two_undeclared_keys_is_named :
    let v : Value := .obj
      [("a", .num (.int 1)), ("b", .obj [("c", .null), ("d", .null), ("e", .null)])]
    v.Ordered ∧ Schema.sample.root.Ordered ∧
      (∃ children, list v (some .sample) (structuralPath []) = .ok children ∧
        children.map Child.key = ["a", "b"] ∧
        ∀ child ∈ children, child.StandsBelow .sample []) ∧
      list v (some .sample) (structuralPath ["b"]) =
        .error (.structuralMismatch "b" "d" .undeclared) ∧
      list v (some .sample) (structuralPath ["a"]) =
        .error (.structuralMismatch "a" "a" .scalar) := by
  intro v
  have hv : v.Ordered := by
    simp only [v, Value.Ordered, Value.OrderedMembers]
    decide
  have hlisting := @listing_keeps_paths_aligned v .sample hv Schema.ordered_sample
  refine ⟨hv, Schema.ordered_sample, ?_, ?_, ?_⟩
  · obtain ⟨hlisted, -, hnodes⟩ := hlisting []
    obtain ⟨hchildren, -⟩ := hnodes _ rfl
    obtain ⟨children, hlist⟩ := hlisted.2 ⟨_, rfl, by decide⟩
    obtain ⟨hkeys, -, hbelow⟩ := hchildren children hlist
    exact ⟨children, hlist, hkeys, hbelow⟩
  · obtain ⟨-, -, hnodes⟩ := hlisting ["b"]
    obtain ⟨-, hundeclared, -⟩ := hnodes _ rfl
    obtain ⟨key, hfirst, hfault⟩ := hundeclared _ rfl ⟨"d", by decide, by decide⟩
    have hd : FirstUndeclared ["c"] [("c", .null), ("d", .null), ("e", .null)] "d" :=
      ⟨by decide, by decide, by decide⟩
    obtain rfl : "d" = key := hd.unique hfirst
    exact hfault
  · obtain ⟨-, -, hnodes⟩ := hlisting ["a"]
    obtain ⟨-, -, hleaf⟩ := hnodes _ rfl
    exact hleaf _ rfl rfl rfl

end Child

end FormTree
