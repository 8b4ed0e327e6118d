import FormTree.Form.Outline
import FormTree.Proofs.Finding

/-!
# Outlines in order

An outline lists its branches as the value or the schema lists its keys. So the outline of an
ordered value, or under an ordered schema, has strictly increasing keys in every group
(`ordered_of`), and under a schema each branch is one property of the node above (`ofNode_eq`).
-/

namespace FormTree

namespace Outline

/-! ### The branches of a schema node -/

/-- The outline of a property. -/
def ofProperty (node : Value) : Outline :=
  if SchemaNode.isObject node then .group (ofNode node) else .leaf (.ofNode node)

theorem ofProperties_eq (required : List String) (nodes : List (String × Value)) :
    ofProperties required nodes =
      nodes.map fun entry => (entry.1, required.contains entry.1, ofProperty entry.2) := by
  induction nodes with
  | nil => rfl
  | cons entry rest ih => rw [ofProperties, ih, List.map_cons, ofProperty]

theorem ofDeclaration_eq (required : List String) (v : Value) :
    ofDeclaration required v = ofProperties required (v.members?.getD []) := by
  cases v <;> rfl

theorem ofKeywords_eq (required : List String) (keywords : List (String × Value)) :
    ofKeywords required keywords = ofProperties required
      (((Members.find? Pointer.wrapper keywords).bind Value.members?).getD []) := by
  induction keywords with
  | nil => rfl
  | cons entry rest ih =>
    obtain ⟨keyword, v⟩ := entry
    by_cases hkeyword : keyword = Pointer.wrapper
    · rw [ofKeywords, if_pos hkeyword, ofDeclaration_eq, Members.find?, if_pos hkeyword,
        Option.bind_some]
    · rw [ofKeywords, if_neg hkeyword, ih, Members.find?, if_neg hkeyword]

theorem ofNode_eq (node : Value) : ofNode node = (SchemaNode.properties node).map fun entry =>
    (entry.1, SchemaNode.isRequired node entry.1, ofProperty entry.2) := by
  cases node with
  | obj keywords =>
    rw [ofNode, ofKeywords_eq, ofProperties_eq]
    rfl
  | _ => rfl

theorem keys_ofNode (node : Value) :
    keys (ofNode node) = Members.keys (SchemaNode.properties node) := by
  rw [ofNode_eq, keys, List.map_map]
  rfl

theorem ofMembers_eq (members : List (String × Value)) :
    ofMembers members = members.map fun entry => (entry.1, false, ofValue entry.2) := by
  induction members with
  | nil => rfl
  | cons entry rest ih => rw [ofMembers, ih, List.map_cons]

theorem keys_ofMembers (members : List (String × Value)) :
    keys (ofMembers members) = Members.keys members := by
  rw [ofMembers_eq, keys, List.map_map]
  rfl

/-! ### Order -/

mutual

/-- The keys of every group are strictly increasing. -/
def Ordered : Outline → Prop
  | .leaf _ => True
  | .group branches => OrderedBelow branches

def OrderedBelow : List Branch → Prop
  | [] => True
  | (key, _, outline) :: rest =>
    (∀ other ∈ keys rest, key < other) ∧ Ordered outline ∧ OrderedBelow rest

end

mutual

theorem ordered_ofValue : (v : Value) → v.Ordered → (ofValue v).Ordered
  | .null, _ | .bool _, _ | .num _, _ | .str _, _ | .arr _, _ => trivial
  | .obj members, h => orderedBelow_ofMembers members h.1 h.2

theorem orderedBelow_ofMembers : (members : List (String × Value)) → Members.Ordered members →
    Value.OrderedMembers members → OrderedBelow (ofMembers members)
  | [], _, _ => trivial
  | (key, v) :: rest, hkeys, hbelow => by
    obtain ⟨hfirst, hrest⟩ := List.pairwise_cons.1 hkeys
    refine ⟨?_, ordered_ofValue v hbelow.1, orderedBelow_ofMembers rest hrest hbelow.2⟩
    rw [keys_ofMembers]
    exact hfirst

end

mutual

theorem orderedBelow_ofNode : (node : Value) → node.Ordered → OrderedBelow (ofNode node)
  | .null, _ | .bool _, _ | .num _, _ | .str _, _ | .arr _, _ => trivial
  | .obj keywords, h => orderedBelow_ofKeywords _ keywords h.2

theorem orderedBelow_ofKeywords (required : List String) : (keywords : List (String × Value)) →
    Value.OrderedMembers keywords → OrderedBelow (ofKeywords required keywords)
  | [], _ => trivial
  | (keyword, v) :: rest, h => by
    rw [ofKeywords]
    split
    · exact orderedBelow_ofDeclaration required v h.1
    · exact orderedBelow_ofKeywords required rest h.2

theorem orderedBelow_ofDeclaration (required : List String) : (v : Value) → v.Ordered →
    OrderedBelow (ofDeclaration required v)
  | .null, _ | .bool _, _ | .num _, _ | .str _, _ | .arr _, _ => trivial
  | .obj nodes, h => orderedBelow_ofProperties required nodes h.1 h.2

theorem orderedBelow_ofProperties (required : List String) : (nodes : List (String × Value)) →
    Members.Ordered nodes → Value.OrderedMembers nodes → OrderedBelow (ofProperties required nodes)
  | [], _, _ => trivial
  | (key, node) :: rest, hkeys, hbelow => by
    obtain ⟨hfirst, hrest⟩ := List.pairwise_cons.1 hkeys
    refine ⟨?_, ?_, orderedBelow_ofProperties required rest hrest hbelow.2⟩
    · rw [ofProperties_eq, keys, List.map_map]
      exact hfirst
    · split
      · exact orderedBelow_ofNode node hbelow.1
      · trivial

end

theorem ordered_of {v : Value} {schema : Option Schema} (hv : v.Ordered)
    (hschema : ∀ s, schema = some s → s.root.Ordered) : (Outline.of v schema).Ordered := by
  cases schema with
  | none => exact ordered_ofValue v hv
  | some schema => exact orderedBelow_ofNode schema.root (hschema schema rfl)

end Outline

end FormTree
