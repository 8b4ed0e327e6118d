import FormTree.Proofs.Form.Layout
import FormTree.Proofs.Schema.Node
import Mathlib.Data.List.Induction

/-!
# Which rows a plan has

Without a schema the rows are the nodes of the value; under a schema they are the declared paths,
as far as every node on the way is an object with room for its properties. Either way they come in
the order of their paths, each once. The form of the plan does not depend on the mode: what planning
for editing creates is seen in the values that are shown, not in the rows that there are.

Both follow from the branches that are reached (`Outline.Reached`), which are the properties of a
schema node (`reached_ofNode_iff`) or the members of a mapping (`reached_ofMembers_iff`). Values and
schemas are ordered here, as all that are read are (`Value.Ordered`).
-/

namespace FormTree

open Value Child

/-- The row is written for a path: its key is the last of the path, and its depth leaves out the
root. -/
def Row.StandsAt (row : Row) (path : KeyPath) : Prop :=
  Dotted.decode row.path = .ok path ∧ path.getLast? = some row.key ∧ row.depth = path.length - 1

theorem Row.StandsAt.unique {row : Row} {path other : KeyPath} (h : row.StandsAt path)
    (hother : row.StandsAt other) : path = other :=
  Except.ok.inj (h.1.symm.trans hother.1)

/-- The row has the text of the path that it stands at, and is not for the root. -/
def Row.IsAddressed (row : Row) : Prop :=
  ∃ path, path ≠ [] ∧ row.path = Dotted.encode path ∧ row.StandsAt path

/-- Rows are drawn below a path: it leads through properties to a node of the schema, an object
unless it is the root, and the value has room there for the properties of the node. -/
def Schema.OpensAt (schema : Schema) (v : Value) (path : KeyPath) : Prop :=
  ∃ node, SchemaNode.descend? schema.root path = some node ∧
    (path ≠ [] → SchemaNode.isObject node = true) ∧
    Admits (Members.keys (SchemaNode.properties node)) (v.get? path)

/-- The schema says the same as the row of the path that the row stands at: the row is for a
container if the node there is an object, and its widget, if it has one, and whether it is required
are as the node above classifies the key. -/
def Schema.Governs (schema : Schema) (row : Row) : Prop :=
  ∃ above parent node classification, row.StandsAt (above ++ [row.key]) ∧
    SchemaNode.descend? schema.root above = some parent ∧
    SchemaNode.descend? schema.root (above ++ [row.key]) = some node ∧
    classify parent above row.key = .ok classification ∧
    row.isContainer = SchemaNode.isObject node ∧ row.required = classification.required ∧
    row.kind = if SchemaNode.isObject node then none else some classification.kind

/-- A mapping is wanted at the path: it is the root, or that of a row for a container. -/
def Plan.Opens (plan : Plan) (path : KeyPath) : Prop :=
  path = [] ∨ ∃ row ∈ plan.rows, row.StandsAt path ∧ row.isContainer = true

theorem proper_prefix_concat_iff {α : Type} {above path : List α} {last : α} :
    above <+: path ++ [last] ∧ above ≠ path ++ [last] ↔ above <+: path := by
  constructor
  · rintro ⟨habove, hne⟩
    exact (List.prefix_concat_iff.1 habove).resolve_left hne
  · intro habove
    refine ⟨habove.trans (List.prefix_append path [last]), ?_⟩
    rintro rfl
    have hlength := habove.length_le
    rw [List.length_append, List.length_singleton] at hlength
    omega

theorem Value.isContainer_of_get?_concat {v x : Value} {path : KeyPath} {key : String}
    (h : v.get? (path ++ [key]) = some x) : v.isContainer = true := by
  obtain ⟨first, rest, hpath⟩ := List.exists_cons_of_ne_nil (List.concat_ne_nil key path)
  rw [hpath, get?_cons, Option.bind_eq_some_iff] at h
  obtain ⟨child, hchild, -⟩ := h
  obtain ⟨members, rfl, -⟩ := member?_eq_some_iff.1 hchild
  rfl

namespace Outline

variable {v node : Value} {schema : Schema} {path : KeyPath} {key : String} {required : Bool}
  {outline : Outline} {branches : List Branch} {site : Site} {members : List (String × Value)}

/-! ### Sites under a schema -/

theorem mem_ofNode (h : node.Ordered) : (key, required, outline) ∈ ofNode node ↔
    ∃ child, SchemaNode.property? node key = some child ∧
      required = SchemaNode.isRequired node key ∧ outline = ofProperty child := by
  rw [ofNode_eq, List.mem_map]
  constructor
  · rintro ⟨⟨name, child⟩, hentry, hbranch⟩
    obtain ⟨rfl, rfl, rfl⟩ : name = key ∧ _ = required ∧ _ = outline := by
      simpa only [Prod.mk.injEq] using hbranch
    have hfind := Members.find?_of_mem (SchemaNode.nodup_properties h) hentry
    exact ⟨child, (SchemaNode.property?_eq_find? node name).trans hfind, rfl, rfl⟩
  · rintro ⟨child, hchild, rfl, rfl⟩
    rw [SchemaNode.property?_eq_find?] at hchild
    exact ⟨(key, child), Members.mem_of_find? hchild, rfl⟩

theorem ofProperty_eq_group_iff : ofProperty node = .group branches ↔
    SchemaNode.isObject node = true ∧ branches = ofNode node := by
  rw [ofProperty]
  split
  · next hobject => simp [hobject, eq_comm]
  · next hobject => simp [hobject]

theorem isGroup_ofProperty (node : Value) :
    (ofProperty node).isGroup = SchemaNode.isObject node := by
  rw [ofProperty]
  cases SchemaNode.isObject node <;> rfl

/-- The branches that are reached are the properties of the nodes that are open all the way. -/
theorem reached_ofNode_iff (hschema : schema.root.Ordered) :
    Reached v (ofNode schema.root) path branches ↔
      (∃ node, SchemaNode.descend? schema.root path = some node ∧ branches = ofNode node) ∧
        ∀ above, above <+: path → schema.OpensAt v above := by
  constructor
  · intro hreached
    induction hreached with
    | root hadmits =>
      refine ⟨⟨schema.root, rfl, rfl⟩, fun above habove => ?_⟩
      rw [List.prefix_nil.1 habove]
      rw [keys_ofNode] at hadmits
      exact ⟨schema.root, rfl, fun hne => absurd rfl hne, hadmits⟩
    | @step path branches inside key required _ hbranch hadmits ih =>
      obtain ⟨⟨node, hnode, rfl⟩, hopen⟩ := ih
      have hordered : node.Ordered := SchemaNode.ordered_of_descend? hschema hnode
      obtain ⟨child, hchild, -, houtline⟩ := (mem_ofNode hordered).1 hbranch
      obtain ⟨hobject, rfl⟩ := ofProperty_eq_group_iff.1 houtline.symm
      have hdescend : SchemaNode.descend? schema.root (path ++ [key]) = some child := by
        rw [SchemaNode.descend?_concat, hnode, Option.bind_some, hchild]
      refine ⟨⟨child, hdescend, rfl⟩, fun above habove => ?_⟩
      rcases List.prefix_concat_iff.1 habove with rfl | habove
      · rw [keys_ofNode] at hadmits
        exact ⟨child, hdescend, fun _ => hobject, hadmits⟩
      · exact hopen above habove
  · rintro ⟨⟨node, hnode, rfl⟩, hopen⟩
    induction path using List.reverseRecOn generalizing node with
    | nil =>
      obtain rfl : schema.root = node := Option.some.inj hnode
      obtain ⟨root, hroot, -, hadmits⟩ := hopen [] List.prefix_rfl
      obtain rfl : schema.root = root := Option.some.inj hroot
      rw [← keys_ofNode] at hadmits
      exact .root hadmits
    | append_singleton path key ih =>
      obtain ⟨same, hsame, hobject, hadmits⟩ := hopen (path ++ [key]) List.prefix_rfl
      obtain rfl : node = same := Option.some.inj (hnode.symm.trans hsame)
      rw [SchemaNode.descend?_concat, Option.bind_eq_some_iff] at hnode
      obtain ⟨parent, hparent, hchild⟩ := hnode
      have habove : ∀ above, above <+: path → schema.OpensAt v above := fun above habove =>
        hopen above (habove.trans (List.prefix_append path [key]))
      have hreached := ih habove parent hparent
      have hordered : parent.Ordered := SchemaNode.ordered_of_descend? hschema hparent
      have houtline : ofProperty node = .group (ofNode node) :=
        ofProperty_eq_group_iff.2 ⟨hobject (by simp), rfl⟩
      have hbranch : (key, SchemaNode.isRequired parent key, .group (ofNode node)) ∈
          ofNode parent := (mem_ofNode hordered).2 ⟨node, hchild, rfl, houtline.symm⟩
      rw [← keys_ofNode] at hadmits
      exact .step hreached hbranch hadmits

theorem mem_rootSites_ofNode (hschema : schema.root.Ordered) :
    site ∈ rootSites v (.group (ofNode schema.root)) ↔
      (∃ node child, SchemaNode.descend? schema.root site.parent = some node ∧
        SchemaNode.property? node site.key = some child ∧
        site = ⟨site.parent, site.key, SchemaNode.isRequired node site.key, ofProperty child,
          v.get? site.path⟩) ∧
        ∀ above, above <+: site.parent → schema.OpensAt v above := by
  rw [mem_rootSites, Site.Stands]
  constructor
  · rintro ⟨branches, hreached, hbranch, hheld⟩
    obtain ⟨⟨node, hnode, rfl⟩, hopen⟩ := (reached_ofNode_iff hschema).1 hreached
    have hordered : node.Ordered := SchemaNode.ordered_of_descend? hschema hnode
    obtain ⟨child, hchild, hrequired, houtline⟩ := (mem_ofNode hordered).1 hbranch
    refine ⟨⟨node, child, hnode, hchild, ?_⟩, hopen⟩
    rw [← hrequired, ← houtline, ← hheld]
  · rintro ⟨⟨node, child, hnode, hchild, hsite⟩, hopen⟩
    have hordered : node.Ordered := SchemaNode.ordered_of_descend? hschema hnode
    refine ⟨ofNode node, (reached_ofNode_iff hschema).2 ⟨⟨node, hnode, rfl⟩, hopen⟩, ?_, ?_⟩
    · exact (mem_ofNode hordered).2
        ⟨child, hchild, congrArg Site.required hsite, congrArg Site.outline hsite⟩
    · exact congrArg Site.held hsite

theorem exists_node_of_mem (hschema : schema.root.Ordered)
    (hsite : site ∈ rootSites v (.group (ofNode schema.root))) :
    ∃ node, SchemaNode.descend? schema.root site.path = some node ∧
      site.outline = ofProperty node := by
  obtain ⟨⟨parent, node, hparent, hnode, heq⟩, -⟩ := (mem_rootSites_ofNode hschema).1 hsite
  refine ⟨node, ?_, congrArg Site.outline heq⟩
  rw [Site.path, SchemaNode.descend?_concat, hparent, Option.bind_some, hnode]

/-- The paths of a form under a schema: declared, below nodes that are open. -/
theorem mem_paths_ofNode (hschema : schema.root.Ordered) :
    path ∈ (rootSites v (.group (ofNode schema.root))).map Site.path ↔
      path ≠ [] ∧ (SchemaNode.descend? schema.root path).isSome ∧
        ∀ above, above <+: path → above ≠ path → schema.OpensAt v above := by
  rw [List.mem_map]
  constructor
  · rintro ⟨site, hsite, rfl⟩
    obtain ⟨node, hdescend, -⟩ := exists_node_of_mem hschema hsite
    obtain ⟨-, hopen⟩ := (mem_rootSites_ofNode hschema).1 hsite
    refine ⟨List.concat_ne_nil _ _, ?_, fun above habove hne => ?_⟩
    · rw [hdescend]
      rfl
    · exact hopen above (proper_prefix_concat_iff.1 ⟨habove, hne⟩)
  · rintro ⟨hne, hdeclared, hopen⟩
    obtain ⟨parent, key, rfl⟩ := (List.eq_nil_or_concat path).resolve_left hne
    rw [List.concat_eq_append] at hdeclared hopen ⊢
    obtain ⟨child, hchild⟩ := Option.isSome_iff_exists.1 hdeclared
    rw [SchemaNode.descend?_concat, Option.bind_eq_some_iff] at hchild
    obtain ⟨node, hnode, hchild⟩ := hchild
    have habove : ∀ above, above <+: parent → schema.OpensAt v above := by
      intro above habove
      obtain ⟨hbelow, hproper⟩ := (@proper_prefix_concat_iff _ _ _ key).2 habove
      exact hopen above hbelow hproper
    let site : Site := ⟨parent, key, SchemaNode.isRequired node key, ofProperty child,
      v.get? (parent ++ [key])⟩
    have hsite : site ∈ rootSites v (.group (ofNode schema.root)) :=
      (mem_rootSites_ofNode hschema).2 ⟨⟨node, child, hnode, hchild, rfl⟩, habove⟩
    exact ⟨site, hsite, rfl⟩

/-! ### Sites without a schema -/

theorem mem_ofMembers (h : (Value.obj members).Ordered) :
    (key, required, outline) ∈ ofMembers members ↔
      ∃ child, Members.find? key members = some child ∧ required = false ∧
        outline = ofValue child := by
  rw [ofMembers_eq, List.mem_map]
  constructor
  · rintro ⟨⟨name, child⟩, hentry, hbranch⟩
    obtain ⟨rfl, rfl, rfl⟩ : name = key ∧ _ = required ∧ _ = outline := by
      simpa only [Prod.mk.injEq] using hbranch
    exact ⟨child, (Members.mem_iff_find? h.nodup_members).1 hentry, rfl, rfl⟩
  · rintro ⟨child, hchild, rfl, rfl⟩
    exact ⟨(key, child), (Members.mem_iff_find? h.nodup_members).2 hchild, rfl⟩

theorem ofValue_eq_group_iff : ofValue v = .group branches ↔
    ∃ members, v = .obj members ∧ branches = ofMembers members := by
  cases v <;> simp [ofValue, eq_comm]

theorem isGroup_ofValue (v : Value) : (ofValue v).isGroup = v.isContainer := by
  cases v <;> rfl

theorem rootSites_ofValue_of_not_container (h : ¬ v.isContainer = true) :
    rootSites v (ofValue v) = [] := by
  cases v with
  | obj members => exact absurd rfl h
  | _ => rfl

theorem admits_ofMembers (members : List (String × Value)) :
    Admits (keys (ofMembers members)) (some (.obj members)) := by
  rw [keys_ofMembers]
  exact admits_obj_iff.2 fun key hkey => hkey

theorem reached_ofMembers_iff (h : (Value.obj members).Ordered) :
    Reached (.obj members) (ofMembers members) path branches ↔
      ∃ inside, (Value.obj members).get? path = some (.obj inside) ∧
        branches = ofMembers inside := by
  constructor
  · intro hreached
    induction hreached with
    | root _ => exact ⟨members, rfl, rfl⟩
    | @step path branches inside key required _ hbranch _ ih =>
      obtain ⟨parent, hparent, rfl⟩ := ih
      have hordered : (Value.obj parent).Ordered := h.of_get? hparent
      obtain ⟨child, hchild, -, houtline⟩ := (mem_ofMembers hordered).1 hbranch
      obtain ⟨inside, rfl, rfl⟩ := ofValue_eq_group_iff.1 houtline.symm
      exact ⟨inside, get?_concat_eq_some_iff.2 ⟨parent, hparent, hchild⟩, rfl⟩
  · rintro ⟨inside, hinside, rfl⟩
    induction path using List.reverseRecOn generalizing inside with
    | nil =>
      obtain rfl : members = inside := Value.obj.inj (Option.some.inj hinside)
      exact .root (admits_ofMembers members)
    | append_singleton path key ih =>
      obtain ⟨parent, hparent, hchild⟩ := get?_concat_eq_some_iff.1 hinside
      have hordered : (Value.obj parent).Ordered := h.of_get? hparent
      have hbranch : (key, false, .group (ofMembers inside)) ∈ ofMembers parent :=
        (mem_ofMembers hordered).2 ⟨.obj inside, hchild, rfl, rfl⟩
      refine .step (ih parent hparent) hbranch ?_
      rw [hinside]
      exact admits_ofMembers inside

theorem mem_rootSites_ofValue (h : v.Ordered) : site ∈ rootSites v (ofValue v) ↔
    ∃ node, v.get? site.path = some node ∧
      site = ⟨site.parent, site.key, false, ofValue node, some node⟩ := by
  by_cases hcontainer : v.isContainer = true
  · obtain ⟨members, rfl⟩ := isContainer_eq_true_iff.1 hcontainer
    rw [ofValue, mem_rootSites, Site.Stands]
    constructor
    · rintro ⟨branches, hreached, hbranch, hheld⟩
      obtain ⟨inside, hinside, rfl⟩ := (reached_ofMembers_iff h).1 hreached
      have hordered : (Value.obj inside).Ordered := h.of_get? hinside
      obtain ⟨node, hfind, hrequired, houtline⟩ := (mem_ofMembers hordered).1 hbranch
      have hnode : (Value.obj members).get? site.path = some node :=
        get?_concat_eq_some_iff.2 ⟨inside, hinside, hfind⟩
      refine ⟨node, hnode, ?_⟩
      rw [← hrequired, ← houtline, ← hnode, ← hheld]
    · rintro ⟨node, hnode, hsite⟩
      obtain ⟨inside, hinside, hfind⟩ := get?_concat_eq_some_iff.1 hnode
      have hordered : (Value.obj inside).Ordered := h.of_get? hinside
      refine ⟨ofMembers inside, (reached_ofMembers_iff h).2 ⟨inside, hinside, rfl⟩, ?_, ?_⟩
      · exact (mem_ofMembers hordered).2
          ⟨node, hfind, congrArg Site.required hsite, congrArg Site.outline hsite⟩
      · exact (congrArg Site.held hsite).trans hnode.symm
  · rw [rootSites_ofValue_of_not_container hcontainer]
    constructor
    · intro hsite
      exact absurd hsite List.not_mem_nil
    · rintro ⟨node, hnode, -⟩
      exact absurd (isContainer_of_get?_concat hnode) hcontainer

theorem mem_paths_ofValue (h : v.Ordered) : path ∈ (rootSites v (ofValue v)).map Site.path ↔
    path ≠ [] ∧ (v.get? path).isSome := by
  rw [List.mem_map]
  constructor
  · rintro ⟨site, hsite, rfl⟩
    obtain ⟨node, hnode, -⟩ := (mem_rootSites_ofValue h).1 hsite
    exact ⟨List.concat_ne_nil _ _, Option.isSome_iff_exists.2 ⟨node, hnode⟩⟩
  · rintro ⟨hne, hsome⟩
    obtain ⟨parent, key, rfl⟩ := (List.eq_nil_or_concat path).resolve_left hne
    rw [List.concat_eq_append] at hsome ⊢
    obtain ⟨node, hnode⟩ := Option.isSome_iff_exists.1 hsome
    let site : Site := ⟨parent, key, false, ofValue node, some node⟩
    have hsite : site ∈ rootSites v (ofValue v) :=
      (mem_rootSites_ofValue h).2 ⟨node, hnode, rfl⟩
    exact ⟨site, hsite, rfl⟩

theorem fault?_eq_none_of_mem (h : v.Ordered) (hsite : site ∈ rootSites v (ofValue v)) :
    site.fault? = none := by
  obtain ⟨node, -, hsite⟩ := (mem_rootSites_ofValue h).1 hsite
  rw [hsite]
  cases node with
  | obj members => exact objectionTo?_eq_none_iff.2 (admits_ofMembers members)
  | _ => rfl

end Outline

namespace Plan

open Outline

variable {v : Value} {schema : Schema} {frame : Frame} {site : Site} {errors : List String}
  {path : KeyPath} {mode : Mode} {findings : List Finding} {settings : Settings}

theorem standsAt_concat {row : Row} {key : String}
    (hpath : row.path = Dotted.encode (path ++ [key])) (hkey : row.key = key)
    (hdepth : row.depth = (path ++ [key]).length - 1) : row.StandsAt (path ++ [key]) := by
  refine ⟨?_, ?_, hdepth⟩
  · rw [hpath]
    exact Dotted.decode_encode (path ++ [key])
  · rw [hkey]
    exact List.getLast?_concat

theorem standsAt_rowAt (frame : Frame) (site : Site) (errors : List String) :
    (rowAt frame site errors).StandsAt site.path :=
  standsAt_concat (path_rowAt frame site errors) (key_rowAt frame site errors)
    (depth_rowAt frame site errors)

theorem standsAt_make {schema : Option Schema} (hordered : (Outline.of v schema).Ordered)
    (mode : Mode) (findings : List Finding) (settings : Settings) :
    List.Forall₂ Row.StandsAt (make v schema mode findings settings).rows
      ((rootSites v (.of v schema)).map Site.path) := by
  rw [rows_make hordered, List.forall₂_map_left_iff, List.forall₂_map_right_iff, List.forall₂_same]
  intro site _
  exact standsAt_rowAt _ site _

theorem isAddressed_concat {row : Row} {key : String}
    (hpath : row.path = Dotted.encode (path ++ [key])) (hkey : row.key = key)
    (hdepth : row.depth = (path ++ [key]).length - 1) : row.IsAddressed :=
  ⟨path ++ [key], List.concat_ne_nil key path, hpath, standsAt_concat hpath hkey hdepth⟩

mutual

theorem isAddressed_branchStretch : (outline : Outline) → (path : KeyPath) → (key : String) →
    (required : Bool) → (desk : Desk) →
    ∀ row ∈ (branchStretch frame (path ++ [key]) key required outline desk).rows, row.IsAddressed
  | .leaf kind, path, key, required, desk => by
    intro row hrow
    rw [branchStretch] at hrow
    split at hrow
    · exact absurd hrow List.not_mem_nil
    · obtain rfl := List.mem_singleton.1 hrow
      exact isAddressed_concat rfl rfl rfl
  | .group branches, path, key, required, desk => by
    intro row hrow
    rw [branchStretch] at hrow
    split at hrow
    · exact absurd hrow List.not_mem_nil
    · dsimp only at hrow
      split at hrow
      · obtain rfl := List.mem_singleton.1 hrow
        exact isAddressed_concat rfl rfl rfl
      · rcases List.mem_cons.1 hrow with rfl | hbelow
        · exact isAddressed_concat rfl rfl rfl
        · exact isAddressed_stretch branches (path ++ [key]) _ row hbelow

theorem isAddressed_stretch : (branches : List Branch) → (path : KeyPath) → (desk : Desk) →
    ∀ row ∈ (stretch frame path branches desk).rows, row.IsAddressed
  | [], path, desk => by
    intro row hrow
    rw [stretch] at hrow
    exact absurd hrow List.not_mem_nil
  | (key, required, outline) :: rest, path, desk => by
    intro row hrow
    rw [stretch] at hrow
    rcases List.mem_append.1 hrow with hfirst | hothers
    · exact isAddressed_branchStretch outline path key required desk row hfirst
    · exact isAddressed_stretch rest path _ row hothers

end

/-- Every row of a plan is addressed. Here nothing has to be in order. -/
theorem isAddressed_of_mem_rows {schema : Option Schema} {row : Row}
    (hrow : row ∈ (make v schema mode findings settings).rows) : row.IsAddressed := by
  rw [make] at hrow
  dsimp only at hrow
  generalize Outline.of v schema = outline at hrow
  rw [rootStretch.eq_def] at hrow
  split at hrow
  · exact absurd hrow List.not_mem_nil
  · next branches =>
    dsimp only at hrow
    split at hrow
    · exact absurd hrow List.not_mem_nil
    · exact isAddressed_stretch branches [] _ row hrow

theorem increasing_paths {outline : Outline} (v : Value) (hordered : outline.Ordered) :
    ((rootSites v outline).map Site.path).Pairwise (· < ·) :=
  List.pairwise_map.2 (increasing_rootSites v hordered)

theorem kind?_ofProperty (node : Value) : (Outline.ofProperty node).kind? =
    if SchemaNode.isObject node then none else some (.ofNode node) := by
  rw [Outline.ofProperty]
  cases SchemaNode.isObject node <;> rfl

theorem governs_rowAt (hschema : schema.root.Ordered)
    (hsite : site ∈ rootSites v (.group (ofNode schema.root))) :
    schema.Governs (rowAt frame site errors) := by
  obtain ⟨⟨parent, node, hparent, hnode, hsite⟩, -⟩ := (mem_rootSites_ofNode hschema).1 hsite
  have hdescend : SchemaNode.descend? schema.root (site.parent ++ [site.key]) = some node := by
    rw [SchemaNode.descend?_concat, hparent, Option.bind_some, hnode]
  have hclassify := classify_of_property? hnode site.parent
  have houtline : site.outline = Outline.ofProperty node := congrArg Site.outline hsite
  have hrequired : site.required = SchemaNode.isRequired parent site.key :=
    congrArg Site.required hsite
  have hstands : (rowAt frame site errors).StandsAt (site.parent ++ [site.key]) :=
    standsAt_rowAt frame site errors
  rw [Schema.Governs, key_rowAt, isContainer_rowAt, required_rowAt, kind_rowAt, houtline,
    isGroup_ofProperty, kind?_ofProperty]
  exact ⟨site.parent, parent, node, _, hstands, hparent, hdescend, hclassify, rfl, hrequired, rfl⟩

theorem exists_row_of_mem (hschema : schema.root.Ordered)
    (hsite : site ∈ rootSites v (.group (ofNode schema.root))) (mode : Mode)
    (findings : List Finding) (settings : Settings) :
    ∃ row ∈ (make v (some schema) mode findings settings).rows,
      row.StandsAt site.path ∧ row.isContainer = site.outline.isGroup := by
  have hordered : (Outline.of v (some schema)).Ordered := orderedBelow_ofNode schema.root hschema
  exact ⟨_, (mem_rows_make hordered).2 ⟨site, hsite, rfl⟩, standsAt_rowAt _ site _,
    isContainer_rowAt _ site _⟩

theorem opens_iff (hschema : schema.root.Ordered) :
    (make v (some schema) mode findings settings).Opens path ↔
      path = [] ∨ ∃ site ∈ rootSites v (.group (ofNode schema.root)),
        site.path = path ∧ site.outline.isGroup = true := by
  have hordered : (Outline.of v (some schema)).Ordered := orderedBelow_ofNode schema.root hschema
  refine or_congr_right ⟨?_, ?_⟩
  · rintro ⟨row, hrow, hpath, hcontainer⟩
    obtain ⟨site, hsite, rfl⟩ := (mem_rows_make hordered).1 hrow
    rw [isContainer_rowAt] at hcontainer
    exact ⟨site, hsite, (standsAt_rowAt _ site _).unique hpath, hcontainer⟩
  · rintro ⟨site, hsite, rfl, hgroup⟩
    obtain ⟨row, hrow, hpath, hcontainer⟩ :=
      exists_row_of_mem hschema hsite mode findings settings
    exact ⟨row, hrow, hpath, hcontainer.trans hgroup⟩

/-- Under a schema there is a row for every declared path below nodes that are open, in the order of
the paths, and each row says what the schema says of its path. -/
theorem rows_under_schema (hschema : schema.root.Ordered) (v : Value) (mode : Mode)
    (findings : List Finding) (settings : Settings) :
    let plan := make v (some schema) mode findings settings
    (plan.rows.map Row.path).Nodup ∧
      (∃ paths, List.Forall₂ Row.StandsAt plan.rows paths ∧ paths.Pairwise (· < ·) ∧
        ∀ path, path ∈ paths ↔
          path ≠ [] ∧ (SchemaNode.descend? schema.root path).isSome ∧
            ∀ above, above <+: path → above ≠ path → schema.OpensAt v above) ∧
      ∀ row ∈ plan.rows, schema.Governs row := by
  have hordered : (Outline.of v (some schema)).Ordered := orderedBelow_ofNode schema.root hschema
  have hrows : List.Forall₂ Row.StandsAt (make v (some schema) mode findings settings).rows
      ((rootSites v (.of v (some schema))).map Site.path) :=
    standsAt_make hordered mode findings settings
  intro plan
  refine ⟨nodup_addresses_make hordered mode findings settings,
    ⟨_, hrows, increasing_paths v hordered, fun path => mem_paths_ofNode hschema⟩,
    fun row hrow => ?_⟩
  obtain ⟨site, hsite, rfl⟩ := (mem_rows_make hordered).1 hrow
  exact governs_rowAt hschema hsite

theorem row_below_open_container :
    Schema.sample.root.Ordered ∧
      ∃ paths, List.Forall₂ Row.StandsAt
          (make (.obj [("a", .str "x")]) (some .sample) .edit [] .standard).rows paths ∧
        paths.Pairwise (· < ·) ∧ ["b", "c"] ∈ paths := by
  have hrows := rows_under_schema Schema.ordered_sample (.obj [("a", .str "x")]) .edit [] .standard
  obtain ⟨-, ⟨paths, hstands, hincreasing, hpaths⟩, -⟩ := hrows
  have hroot : Schema.sample.OpensAt (.obj [("a", .str "x")]) [] :=
    ⟨_, rfl, fun h => absurd rfl h, by decide⟩
  have hb : Schema.sample.OpensAt (.obj [("a", .str "x")]) ["b"] :=
    ⟨_, rfl, fun _ => rfl, by decide⟩
  refine ⟨Schema.ordered_sample, paths, hstands, hincreasing,
    (hpaths ["b", "c"]).2 ⟨by decide, rfl, ?_⟩⟩
  intro above habove hne
  have hparent : above <+: [] ++ ["b"] := proper_prefix_concat_iff.1 ⟨habove, hne⟩
  rcases List.prefix_concat_iff.1 hparent with rfl | hnil
  · exact hb
  · rw [List.prefix_nil.1 hnil]
    exact hroot

theorem rowAt_ofValue (hv : v.Ordered) (hbuilds : frame.builds = false)
    (hsite : site ∈ rootSites v (ofValue v)) :
    let row := rowAt frame site errors
    ∃ path node, row.StandsAt path ∧ v.get? path = some node ∧
      row.isContainer = node.isContainer ∧
      row.value = if node.isContainer then none else some node := by
  obtain ⟨node, hnode, hsite⟩ := (mem_rootSites_ofValue hv).1 hsite
  have houtline : site.outline = ofValue node := congrArg Site.outline hsite
  have hheld : site.held = some node := congrArg Site.held hsite
  have hshown : frame.shown false site.held = some node := by
    rw [Frame.shown, hbuilds, hheld]
    rfl
  have hstands : (rowAt frame site errors).StandsAt site.path :=
    standsAt_rowAt frame site errors
  intro row
  have hcontainer : row.isContainer = node.isContainer := by
    rw [isContainer_rowAt, houtline, isGroup_ofValue]
  have hvalue : row.value = if node.isContainer then none else some node := by
    rw [value_rowAt, houtline, isGroup_ofValue, hshown]
  exact ⟨site.path, node, hstands, hnode, hcontainer, hvalue⟩

theorem rootMismatch?_ofValue (v : Value) : rootMismatch? v (ofValue v) = none := by
  cases v with
  | obj members =>
    have hnone : objectionTo? (some (.obj members)) (keys (ofMembers members)) [] = none :=
      objectionTo?_eq_none_iff.2 (admits_ofMembers members)
    rw [ofValue, rootMismatch?, hnone, Option.map_none]
  | _ => rfl

/-- Without a schema there is a row for every node below the root, in the order of the paths, and
nothing is left out. -/
theorem rows_without_schema (hv : v.Ordered) (mode : Mode) (findings : List Finding)
    (settings : Settings) :
    let plan := make v none mode findings settings
    (∃ paths, List.Forall₂ Row.StandsAt plan.rows paths ∧ paths.Pairwise (· < ·) ∧
        ∀ path, path ∈ paths ↔ path ≠ [] ∧ (v.get? path).isSome) ∧
      (v.isContainer = false → plan.rows = []) ∧
      (∀ row ∈ plan.rows, ∃ path node, row.StandsAt path ∧ v.get? path = some node ∧
        row.isContainer = node.isContainer ∧
        row.value = if node.isContainer then none else some node) ∧
      plan.mismatches = [] ∧ plan.materialized = none := by
  have hordered : (Outline.of v none).Ordered := ordered_ofValue v hv
  have hrows : (make v none mode findings settings).rows = _ :=
    rows_make hordered mode findings settings
  have hmismatches : (make v none mode findings settings).mismatches = _ :=
    mismatches_make hordered mode findings settings
  have hstands : List.Forall₂ Row.StandsAt (make v none mode findings settings).rows
      ((rootSites v (ofValue v)).map Site.path) :=
    standsAt_make hordered mode findings settings
  intro plan
  refine ⟨⟨_, hstands, increasing_paths v hordered, fun path => mem_paths_ofValue hv⟩, ?_, ?_, ?_,
    materialized_free mode⟩
  · intro hcontainer
    have hempty : rootSites v (ofValue v) = [] :=
      rootSites_ofValue_of_not_container (by rw [hcontainer]; decide)
    exact hrows.trans (congrArg _ hempty)
  · intro row hrow
    obtain ⟨site, hsite, rfl⟩ := (mem_rows_make hordered).1 hrow
    have hbuilds : Frame.builds ⟨mode, false, settings⟩ = false := by
      rw [Frame.builds, Bool.and_false]
    exact rowAt_ofValue hv hbuilds hsite
  · refine hmismatches.trans ?_
    rw [Outline.of, rootMismatch?_ofValue, Option.toList_none, List.nil_append,
      List.filterMap_eq_nil_iff]
    intro site hsite
    rw [Site.mismatch?, fault?_eq_none_of_mem hv hsite, Option.map_none]

/-- The empty key and a key with a separator in it are keys like others, and an array is a leaf. -/
theorem rows_of_unusual_keys :
    (Value.obj [("", .arr [.obj [("k", .null)]]), ("x..y", .obj [])]).Ordered ∧
      ∃ paths, List.Forall₂ Row.StandsAt
          (make (.obj [("", .arr [.obj [("k", .null)]]), ("x..y", .obj [])])
            none .read [] .standard).rows paths ∧
        paths.Pairwise (· < ·) ∧ [""] ∈ paths ∧ ["", "k"] ∉ paths ∧ ["x..y"] ∈ paths := by
  have hordered : (Value.obj [("", .arr [.obj [("k", .null)]]), ("x..y", .obj [])]).Ordered := by
    simp only [Value.Ordered, Value.OrderedMembers, Value.OrderedItems]
    decide
  have hrows := rows_without_schema hordered .read [] .standard
  obtain ⟨⟨paths, hstands, hincreasing, hpaths⟩, -⟩ := hrows
  refine ⟨hordered, paths, hstands, hincreasing, ?_, ?_, ?_⟩
  · exact (hpaths [""]).2 ⟨by decide, rfl⟩
  · intro hmem
    have hsome := ((hpaths ["", "k"]).1 hmem).2
    exact absurd hsome (by decide)
  · exact (hpaths ["x..y"]).2 ⟨by decide, rfl⟩

end Plan

end FormTree
