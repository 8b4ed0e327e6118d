import FormTree.Proofs.Finding
import FormTree.Schema.Basic

/-!
# Schema nodes by key path

`descend?` goes down a schema by properties alone, one key of the path at a time. Below an ordered
value everything is ordered, so the properties of every node have distinct keys.
-/

namespace FormTree

namespace Value

variable {v x : Value} {key : String} {path : KeyPath} {members : List (String × Value)}

theorem Ordered.nodup_members (h : (Value.obj members).Ordered) : (Members.keys members).Nodup :=
  h.1.nodup_keys

theorem Ordered.of_member? (h : v.Ordered) (hx : v.member? key = some x) : x.Ordered := by
  obtain ⟨members, rfl, hfind⟩ := member?_eq_some_iff.1 hx
  have hbelow : ∀ entry ∈ members, entry.2.Ordered := orderedMembers_iff.1 h.2
  exact hbelow (key, x) (Members.mem_of_find? hfind)

theorem Ordered.of_get? (h : v.Ordered) (hx : v.get? path = some x) : x.Ordered := by
  induction path generalizing v with
  | nil =>
    rw [get?_nil, Option.some.injEq] at hx
    exact hx ▸ h
  | cons key rest ih =>
    rw [get?_cons, Option.bind_eq_some_iff] at hx
    obtain ⟨child, hchild, hrest⟩ := hx
    exact ih (h.of_member? hchild) hrest

end Value

namespace SchemaNode

variable {node child root : Value} {key : String}

theorem property?_eq_find? (node : Value) (key : String) :
    property? node key = Members.find? key (properties node) := by
  rw [property?, properties]
  cases properties? node <;> rfl

theorem property?_eq_get? (node : Value) (key : String) :
    property? node key = node.get? [Pointer.wrapper, key] := by
  rw [property?, properties?, Option.bind_assoc, Value.get?_cons]
  refine congrArg _ (funext fun x => ?_)
  rw [Value.get?_cons]
  exact (Option.bind_fun_some _).symm

theorem ordered_properties (h : node.Ordered) : Members.Ordered (properties node) := by
  rw [properties]
  cases hproperties : properties? node with
  | none => exact List.Pairwise.nil
  | some nodes =>
    obtain ⟨wrapped, hwrapped, hnodes⟩ := Option.bind_eq_some_iff.1 hproperties
    cases wrapped with
    | obj members =>
      have hordered : (Value.obj members).Ordered := h.of_member? hwrapped
      obtain rfl : members = nodes := Option.some.inj hnodes
      exact hordered.1
    | _ => exact absurd hnodes (Option.some_ne_none nodes).symm

theorem nodup_properties (h : node.Ordered) : (Members.keys (properties node)).Nodup :=
  (ordered_properties h).nodup_keys

theorem ordered_of_property? (h : node.Ordered) (hchild : property? node key = some child) :
    child.Ordered := by
  rw [property?_eq_get?] at hchild
  exact h.of_get? hchild

theorem mem_keys_properties :
    key ∈ Members.keys (properties node) ↔ ∃ child, property? node key = some child := by
  rw [property?_eq_find?, ← Members.has_iff_mem_keys, Members.has_eq_true_iff]

theorem descend?_append (root : Value) (path below : KeyPath) :
    descend? root (path ++ below) = (descend? root path).bind (descend? · below) := by
  induction path generalizing root with
  | nil => rfl
  | cons first rest ih =>
    rw [List.cons_append, descend?, descend?, Option.bind_assoc]
    exact congrArg _ (funext ih)

theorem descend?_concat (root : Value) (path : KeyPath) (key : String) :
    descend? root (path ++ [key]) = (descend? root path).bind (property? · key) := by
  rw [descend?_append]
  exact congrArg _ (funext fun node => Option.bind_fun_some (property? node key))

theorem ordered_of_descend? {path : KeyPath} (h : root.Ordered)
    (hnode : descend? root path = some node) : node.Ordered := by
  induction path generalizing root with
  | nil =>
    rw [descend?, Option.some.injEq] at hnode
    exact hnode ▸ h
  | cons key rest ih =>
    rw [descend?, Option.bind_eq_some_iff] at hnode
    obtain ⟨child, hchild, hrest⟩ := hnode
    exact ih (ordered_of_property? h hchild) hrest

end SchemaNode

/-- A structural path leads where its keys lead by properties. -/
theorem Schema.nodeFrom_structuralPath_eq_ok {node child : Value} {path : KeyPath}
    {done : List String} : nodeFrom done node (structuralPath path) = .ok child ↔
      SchemaNode.descend? node path = some child := by
  induction path generalizing done node with
  | nil => simp [structuralPath, nodeFrom, SchemaNode.descend?]
  | cons key rest ih =>
    rw [structuralPath, SchemaNode.descend?, SchemaNode.property?_eq_get?, Value.get?_cons,
      Option.bind_assoc, nodeFrom]
    cases node.member? Pointer.wrapper with
    | none => simp
    | some nodes =>
      simp only [nodeFrom, Option.bind_some, Value.get?_cons, Value.get?_nil, Option.bind_fun_some]
      cases nodes.member? key with
      | none => simp
      | some next => exact ih

end FormTree
