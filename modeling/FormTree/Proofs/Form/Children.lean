import FormTree.Form.Children
import FormTree.Proofs.Tree.Growth

/-!
# What a node may hold

Whether the rows below a node are drawn depends on what the value holds there and on nothing else:
nothing, `null`, or a mapping with declared keys only. `Child.Admits` says so, and the objection
that is raised otherwise is a function of what is held.
-/

namespace FormTree

namespace Child

variable {declared : List String} {held : Option Value} {path : KeyPath}

/-- Nothing is held there, or `null`, or a mapping all of whose keys are declared. -/
def Admits (declared : List String) (held : Option Value) : Prop :=
  held = none ∨ held = some .null ∨
    ∃ members, held = some (.obj members) ∧ ∀ key ∈ Members.keys members, key ∈ declared

/-- The objection to what is held at a path. -/
def objectionTo? (held : Option Value) (declared : List String) (path : KeyPath) :
    Option FieldError :=
  match held with
  | none => none
  | some .null => none
  | some (.obj members) =>
    ((Members.keys members).find? fun key => !declared.contains key).map fun key =>
      .structuralMismatch (Dotted.encode path) key .undeclared
  | some _ => some (.structuralMismatch (Dotted.encode path) (path.getLast?.getD "") .scalar)

theorem objection?_eq (v : Value) (declared : List String) (path : KeyPath) :
    objection? v declared path = objectionTo? (v.get? path) declared path := rfl

theorem admits_obj_iff {members : List (String × Value)} :
    Admits declared (some (.obj members)) ↔ ∀ key ∈ Members.keys members, key ∈ declared := by
  simp [Admits]

theorem objectionTo?_eq_none_iff :
    objectionTo? held declared path = none ↔ Admits declared held := by
  match held with
  | none => simp [objectionTo?, Admits]
  | some .null => simp [objectionTo?, Admits]
  | some (.obj members) =>
    rw [admits_obj_iff, objectionTo?, Option.map_eq_none_iff, List.find?_eq_none]
    simp
  | some (.bool _) | some (.num _) | some (.str _) | some (.arr _) => simp [objectionTo?, Admits]

theorem not_admits_of_objectionTo? {fault : FieldError}
    (h : objectionTo? held declared path = some fault) : ¬ Admits declared held := by
  rw [← @objectionTo?_eq_none_iff _ _ path, h]
  exact Option.some_ne_none fault

theorem exists_mismatch_of_objectionTo? {fault : FieldError}
    (h : objectionTo? held declared path = some fault) :
    ∃ path key how, fault = .structuralMismatch path key how := by
  match held, h with
  | some (.obj _), h =>
    obtain ⟨key, -, rfl⟩ := Option.map_eq_some_iff.1 h
    exact ⟨_, _, _, rfl⟩
  | some (.bool _), h | some (.num _), h | some (.str _), h | some (.arr _), h =>
    obtain rfl := Option.some.inj h
    exact ⟨_, _, _, rfl⟩

instance (declared : List String) (held : Option Value) : Decidable (Admits declared held) :=
  decidable_of_iff (objectionTo? held declared [] = none) objectionTo?_eq_none_iff

/-- Opening a node is no reason for an objection, and takes none away. -/
theorem objectionTo?_opened (held : Option Value) (declared : List String) (path : KeyPath) :
    objectionTo? (some (Value.opened true held)) declared path =
      objectionTo? held declared path := by
  match held with
  | none | some .null => rfl
  | some (.obj _) | some (.bool _) | some (.num _) | some (.str _) | some (.arr _) => rfl

theorem admits_opened : Admits declared (some (Value.opened true held)) ↔ Admits declared held := by
  have hsame := objectionTo?_opened held declared []
  rw [← @objectionTo?_eq_none_iff _ _ [], hsame, objectionTo?_eq_none_iff]

theorem admits_of_same {v w : Value} (h : v.same w = true) :
    Admits declared (some v) ↔ Admits declared (some w) := by
  cases v <;> cases w <;> simp only [Value.same, Bool.false_eq_true] at h
  case obj.obj members more =>
    rw [admits_obj_iff, admits_obj_iff, Value.keys_of_sameMembers h]
  all_goals simp [Admits]

theorem admits_get?_of_same {v w : Value} (h : v.same w = true) (path : KeyPath) :
    Admits declared (v.get? path) ↔ Admits declared (w.get? path) := by
  obtain ⟨x, y, hx, hy, hxy⟩ | ⟨hv, hw⟩ := Value.get?_of_same h path
  · rw [hx, hy]
    exact admits_of_same hxy
  · rw [hv, hw]

theorem Admits.exists_members (h : Admits declared held) :
    ∃ members, Value.opened true held = .obj members := by
  obtain rfl | rfl | ⟨members, rfl, -⟩ := h
  · exact ⟨[], rfl⟩
  · exact ⟨[], rfl⟩
  · exact ⟨members, rfl⟩

/-! ### Listing under a schema -/

variable {v node : Value} {schema : Schema} {structural : List String}

theorem list_eq_error {fault : FieldError} (hnode : schema.nodeAt structural = .ok node)
    (hfault : objection? v (Members.keys (SchemaNode.properties node)) (valuePath structural) =
      some fault) :
    list v (some schema) structural = .error fault := by
  rw [list, listDeclared, hnode]
  simp only [Except.bind, hfault]

theorem list_eq_ok (hnode : schema.nodeAt structural = .ok node)
    (hnone : objection? v (Members.keys (SchemaNode.properties node)) (valuePath structural) =
      none) :
    list v (some schema) structural =
      .ok ((SchemaNode.properties node).map (ofProperty structural)) := by
  rw [list, listDeclared, hnode]
  simp only [Except.bind, hnone]

end Child

end FormTree
