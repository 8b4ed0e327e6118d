import FormTree.Proofs.Path.Wrapping
import FormTree.Proofs.Schema.Node
import FormTree.Schema.Basic
import FormTree.Schema.Rule

/-!
# The two lookups of a schema

A node of a schema is looked up along a structural path, token by token, or by the properties of one
node after the other, key by key. The first takes two steps for one of the second, so there are two
places where it can fail below a node: at the wrapper, if the node declares no properties, and at
the key. It fails in one of them exactly if the second does, below the same node, and the error
names the path of that node (`Schema.lookups_agree`).

A descriptor whose keywords have the right form has it at every node that properties lead to, so
there a node has a member under the wrapper exactly if it declares properties
(`SchemaNode.properties?_eq_none_iff`).
-/

namespace FormTree

/-! ### Nodes of a well-formed descriptor -/

namespace Rule

variable {node child wrapped : Value} {key : String} {keywords nodes : List (String × Value)}

theorem propertiesWellFormed_of_find? (h : keywordsWellFormed keywords = true)
    (hfind : Members.find? Pointer.wrapper keywords = some wrapped) :
    propertiesWellFormed wrapped = true := by
  induction keywords with
  | nil => cases hfind
  | cons entry rest ih =>
    obtain ⟨keyword, x⟩ := entry
    rw [keywordsWellFormed.eq_def, Bool.and_eq_true] at h
    by_cases hkeyword : keyword = Pointer.wrapper
    · rw [Members.find?, if_pos hkeyword, Option.some.injEq] at hfind
      subst hkeyword hfind
      exact h.1
    · rw [Members.find?, if_neg hkeyword] at hfind
      exact ih h.2 hfind

theorem wellFormed_of_find? (h : nodesWellFormed nodes = true)
    (hfind : Members.find? key nodes = some child) : wellFormed child = true := by
  induction nodes with
  | nil => cases hfind
  | cons entry rest ih =>
    obtain ⟨k, x⟩ := entry
    rw [nodesWellFormed, Bool.and_eq_true] at h
    by_cases hk : k = key
    · rw [Members.find?, if_pos hk, Option.some.injEq] at hfind
      exact hfind ▸ h.1
    · rw [Members.find?, if_neg hk] at hfind
      exact ih h.2 hfind

theorem exists_nodes_of_member? (h : wellFormed node = true)
    (hmember : node.member? Pointer.wrapper = some wrapped) :
    ∃ nodes, wrapped = .obj nodes ∧ nodesWellFormed nodes = true := by
  obtain ⟨keywords, rfl, hfind⟩ := Value.member?_eq_some_iff.1 hmember
  rw [wellFormed] at h
  have hwrapped : propertiesWellFormed wrapped = true := propertiesWellFormed_of_find? h hfind
  cases wrapped with
  | obj nodes => exact ⟨nodes, rfl, hwrapped⟩
  | _ => cases hwrapped

end Rule

namespace SchemaNode

variable {node child root : Value} {key : String} {path : KeyPath}

theorem property?_eq_some_iff : property? node key = some child ↔
    ∃ nodes, node.member? Pointer.wrapper = some nodes ∧ nodes.member? key = some child := by
  simp only [property?_eq_get?, Value.get?_cons, Option.bind_eq_some_iff, Value.get?_nil,
    Option.some.injEq, exists_eq_right]

theorem wellFormed_of_property? (h : Rule.wellFormed node = true)
    (hchild : property? node key = some child) : Rule.wellFormed child = true := by
  obtain ⟨wrapped, hwrapped, hmember⟩ := property?_eq_some_iff.1 hchild
  obtain ⟨nodes, rfl, hnodes⟩ := Rule.exists_nodes_of_member? h hwrapped
  exact Rule.wellFormed_of_find? hnodes hmember

theorem wellFormed_of_descend? (h : Rule.wellFormed root = true)
    (hnode : descend? root path = some node) : Rule.wellFormed node = true := by
  induction path generalizing root with
  | nil => exact Option.some.inj hnode ▸ h
  | cons key rest ih =>
    rw [descend?, Option.bind_eq_some_iff] at hnode
    obtain ⟨child, hchild, hrest⟩ := hnode
    exact ih (wellFormed_of_property? h hchild) hrest

theorem properties?_eq_none_iff (h : Rule.wellFormed node = true) :
    properties? node = none ↔ node.member? Pointer.wrapper = none := by
  rw [properties?]
  cases hwrapped : node.member? Pointer.wrapper with
  | none => exact iff_of_true rfl rfl
  | some wrapped =>
    obtain ⟨nodes, rfl, -⟩ := Rule.exists_nodes_of_member? h hwrapped
    exact iff_of_false (Option.some_ne_none nodes) (Option.some_ne_none _)

end SchemaNode

/-! ### Where a lookup ends -/

namespace SchemaNode

variable {node root stop : Value} {key : String} {path above below : KeyPath}

/-- Properties lead from the root along `above`, and along no longer part of the path. -/
structure Deepest (root : Value) (path above : KeyPath) : Prop where
  onWay : above <+: path
  found : (descend? root above).isSome = true
  longest : ∀ other, other <+: path → (descend? root other).isSome = true →
    other.length ≤ above.length

theorem Deepest.unique {other : KeyPath} (h : Deepest root path above)
    (hother : Deepest root path other) : above = other := by
  have hle : above.length ≤ other.length := hother.longest above h.onWay h.found
  have hge : other.length ≤ above.length := h.longest other hother.onWay hother.found
  exact (List.prefix_of_prefix_length_le h.onWay hother.onWay hle).eq_of_length (by omega)

theorem descend?_of_undeclared (hnode : descend? root above = some node)
    (hkey : property? node key = none) (below : KeyPath) :
    descend? root (above ++ key :: below) = none := by
  rw [descend?_append, hnode, Option.bind_some, descend?, hkey, Option.bind_none]

theorem exists_undeclared (h : descend? root path = none) :
    ∃ above key below node, path = above ++ key :: below ∧ descend? root above = some node ∧
      property? node key = none := by
  induction path generalizing root with
  | nil => cases h
  | cons key rest ih =>
    rw [descend?] at h
    cases hchild : property? root key with
    | none => exact ⟨[], key, rest, root, rfl, rfl, hchild⟩
    | some child =>
      rw [hchild, Option.bind_some] at h
      obtain ⟨above, next, below, node, rfl, hnode, hnext⟩ := ih h
      refine ⟨key :: above, next, below, node, rfl, ?_, hnext⟩
      rw [descend?, hchild, Option.bind_some, hnode]

theorem deepest_of_undeclared (hnode : descend? root above = some node)
    (hkey : property? node key = none) : Deepest root (above ++ key :: below) above := by
  refine ⟨List.prefix_append above (key :: below), ?_, ?_⟩
  · rw [hnode]
    rfl
  · intro other hother hfound
    by_contra hlonger
    have hnext : above ++ [key] <+: above ++ key :: below := ⟨below, by simp⟩
    have hlength : (above ++ [key]).length ≤ other.length := by
      rw [List.length_append, List.length_singleton]
      omega
    obtain ⟨more, rfl⟩ := List.prefix_of_prefix_length_le hnext hother hlength
    rw [List.append_assoc, List.singleton_append, descend?_of_undeclared hnode hkey] at hfound
    cases hfound

end SchemaNode

namespace Schema

variable {node child stop : Value} {key : String} {above below before : KeyPath}

theorem nodeFrom_of_property? (h : SchemaNode.property? node key = some child)
    (done rest : List String) :
    nodeFrom done node (Pointer.wrapper :: key :: rest) =
      nodeFrom (done ++ [Pointer.wrapper, key]) child rest := by
  obtain ⟨nodes, hnodes, hchild⟩ := SchemaNode.property?_eq_some_iff.1 h
  simp only [nodeFrom, hnodes, hchild, List.append_assoc, List.singleton_append]

/-- Below a node that does not declare the key, the first token that is missing is the wrapper or
the key. Either way it is missing at the path of the node. -/
theorem nodeFrom_of_undeclared (hkey : SchemaNode.property? stop key = none)
    (before : KeyPath) (rest : List String) :
    nodeFrom (structuralPath before) stop (Pointer.wrapper :: key :: rest) =
      .error (.structuralMismatch (Dotted.encode before)
        (if (stop.member? Pointer.wrapper).isNone then Pointer.wrapper else key) .undeclared) := by
  cases hwrapped : stop.member? Pointer.wrapper with
  | none =>
    simp only [nodeFrom, hwrapped, valuePath_structuralPath, Option.isNone_none, if_true]
  | some nodes =>
    have hmissing : nodes.member? key = none := by
      rw [Option.eq_none_iff_forall_ne_some]
      intro child hchild
      have hdeclared := SchemaNode.property?_eq_some_iff.2 ⟨nodes, hwrapped, hchild⟩
      exact Option.some_ne_none child (hdeclared.symm.trans hkey)
    simp [nodeFrom, hwrapped, hmissing, valuePath_structuralPath_concat]

theorem nodeFrom_structuralPath_of_undeclared (hstop : SchemaNode.descend? node above = some stop)
    (hkey : SchemaNode.property? stop key = none) (before below : KeyPath) :
    nodeFrom (structuralPath before) node (structuralPath (above ++ key :: below)) =
      .error (.structuralMismatch (Dotted.encode (before ++ above))
        (if (stop.member? Pointer.wrapper).isNone then Pointer.wrapper else key) .undeclared) := by
  induction above generalizing node before with
  | nil =>
    obtain rfl : node = stop := Option.some.inj hstop
    rw [List.append_nil]
    exact nodeFrom_of_undeclared hkey before (structuralPath below)
  | cons first rest ih =>
    rw [SchemaNode.descend?, Option.bind_eq_some_iff] at hstop
    obtain ⟨child, hchild, hrest⟩ := hstop
    rw [List.cons_append, structuralPath, nodeFrom_of_property? hchild, ← structuralPath_concat,
      ih hrest, List.append_assoc, List.singleton_append]

/-- Along a structural path the same node is found as by properties, key by key, and it is found
unless properties lead nowhere. If they do, the error names the longest part of the path that they
lead along, and the key that comes next, or the wrapper if the node there has nothing under it. -/
theorem lookups_agree (schema : Schema) (path : KeyPath) :
    (∀ node, schema.nodeAt (structuralPath path) = .ok node ↔
      SchemaNode.descend? schema.root path = some node) ∧
    (SchemaNode.descend? schema.root path = none →
      ∃ above key below node, path = above ++ key :: below ∧
        SchemaNode.Deepest schema.root path above ∧
        SchemaNode.descend? schema.root above = some node ∧
        (Rule.wellFormed schema.root = true →
          (node.member? Pointer.wrapper = none ↔ SchemaNode.properties? node = none)) ∧
        schema.nodeAt (structuralPath path) =
          .error (.structuralMismatch (Dotted.encode above)
            (if (node.member? Pointer.wrapper).isNone then Pointer.wrapper else key)
            .undeclared)) := by
  constructor
  · intro node
    exact nodeFrom_structuralPath_eq_ok
  · intro hnone
    obtain ⟨above, key, below, node, rfl, hnode, hkey⟩ := SchemaNode.exists_undeclared hnone
    refine ⟨above, key, below, node, rfl, SchemaNode.deepest_of_undeclared hnode hkey, hnode,
      fun hform => ?_, ?_⟩
    · exact (SchemaNode.properties?_eq_none_iff
        (SchemaNode.wellFormed_of_descend? hform hnode)).symm
    · exact nodeFrom_structuralPath_of_undeclared hnode hkey [] below

theorem lookup_ends_below_key_named_as_the_wrapper :
    let schema : Schema :=
      ⟨.obj [("properties", .obj [("properties", .obj [("type", .str "string")])])], rfl,
        fun _ => []⟩
    SchemaNode.descend? schema.root ["properties", "a"] = none ∧
      schema.nodeAt (structuralPath ["properties", "a"]) =
        .error (.structuralMismatch "properties" Pointer.wrapper .undeclared) ∧
      SchemaNode.descend? schema.root ["a", "b"] = none ∧
      schema.nodeAt (structuralPath ["a", "b"]) =
        .error (.structuralMismatch "" "a" .undeclared) := by
  intro schema
  have hleaf : SchemaNode.descend? schema.root ["properties", "a"] = none := rfl
  have hroot : SchemaNode.descend? schema.root ["a", "b"] = none := rfl
  refine ⟨hleaf, ?_, hroot, ?_⟩
  · obtain ⟨above, key, below, node, hpath, hdeepest, hnode, -, hfault⟩ :=
      (lookups_agree schema ["properties", "a"]).2 hleaf
    obtain rfl : ["properties"] = above :=
      SchemaNode.Deepest.unique (SchemaNode.deepest_of_undeclared rfl rfl) hdeepest
    obtain rfl := Option.some.inj hnode
    exact hfault
  · obtain ⟨above, key, below, node, hpath, hdeepest, hnode, -, hfault⟩ :=
      (lookups_agree schema ["a", "b"]).2 hroot
    obtain rfl : [] = above :=
      SchemaNode.Deepest.unique (SchemaNode.deepest_of_undeclared rfl rfl) hdeepest
    obtain rfl := Option.some.inj hnode
    obtain ⟨rfl, -⟩ := List.cons.inj hpath
    exact hfault

end Schema

end FormTree
