import FormTree.Proofs.Tree.Assignment
import FormTree.Proofs.Tree.Renaming

/-!
# What is seen of a value

At each path a node is seen, and of a mapping only that it is one: what is in it is seen further
down. A value in order is known by what is seen of it (`Ordered.eq_of_seen`). This is the view in
which an edit is local. All that a store does above its path is to open mappings, and a deletion is
not seen there at all (`Edit.seen_deleteKey`).
-/

namespace FormTree

namespace Value

variable {v w : Value} {path above below : KeyPath} {members : List (String × Value)}

/-- A node without its members. -/
def surface : Value → Value
  | .obj _ => .obj []
  | v => v

theorem eq_of_surface (h : v.surface = w.surface) (hleaf : v.isContainer = false) : v = w := by
  cases v with
  | obj members => exact Bool.noConfusion hleaf
  | _ =>
    cases w with
    | obj members => nomatch h
    | _ => exact h

theorem eq_mapping_of_surface (h : v.surface = (Value.obj members).surface) :
    ∃ more, v = .obj more := by
  cases v with
  | obj more => exact ⟨more, rfl⟩
  | _ => nomatch h

/-- What is seen at a path. -/
def seen (v : Value) (path : KeyPath) : Option Value := (v.get? path).map surface

theorem seen_cons (v : Value) (key : String) (rest : KeyPath) :
    v.seen (key :: rest) = (v.member? key).bind (seen · rest) := by
  rw [seen, get?_cons, Option.map_bind]
  rfl

theorem seen_of_mapping (h : v.get? path = some (.obj members)) : v.seen path = some (.obj []) := by
  rw [seen, h]
  rfl

theorem isSome_seen (v : Value) (path : KeyPath) : (v.seen path).isSome = (v.get? path).isSome := by
  rw [seen, Option.isSome_map]

/-- Where the same is seen there are equal nodes, or two mappings. -/
theorem get?_cases_of_seen (h : w.seen path = v.seen path) : w.get? path = v.get? path ∨
    (∃ inner, v.get? path = some (.obj inner)) ∧ ∃ inner, w.get? path = some (.obj inner) := by
  rw [seen, seen] at h
  cases hw : w.get? path with
  | none =>
    rw [hw, Option.map_none, eq_comm, Option.map_eq_none_iff] at h
    exact .inl h.symm
  | some x =>
    rw [hw, Option.map_some, eq_comm, Option.map_eq_some_iff] at h
    obtain ⟨y, hy, hsurface⟩ := h
    rw [hy]
    cases hleaf : y.isContainer with
    | false => exact .inl (congrArg some (eq_of_surface hsurface hleaf).symm)
    | true =>
      obtain ⟨inner, rfl⟩ := isContainer_eq_true_iff.1 hleaf
      obtain ⟨left, rfl⟩ := eq_mapping_of_surface hsurface.symm
      exact .inr ⟨⟨inner, rfl⟩, ⟨left, rfl⟩⟩

theorem blocks_iff_seen : v.Blocks path ↔
    ∃ x, v.seen path = some x ∧ x.isNull = false ∧ x.isContainer = false := by
  rw [Blocks, seen]
  cases v.get? path with
  | none => simp
  | some x => cases x <;> simp [surface, isNull, isContainer]

/-- A value in order is known by what is seen at each path. -/
theorem Ordered.eq_of_seen {v w : Value} (hv : v.Ordered) (hw : w.Ordered)
    (h : ∀ path, v.seen path = w.seen path) : v = w := by
  have hroot : v.surface = w.surface := Option.some.inj (h [])
  cases hleaf : v.isContainer with
  | false => exact eq_of_surface hroot hleaf
  | true =>
    obtain ⟨members, rfl⟩ := isContainer_eq_true_iff.1 hleaf
    obtain ⟨more, rfl⟩ := eq_mapping_of_surface hroot.symm
    congr 1
    apply (ordered_obj_iff.1 hv).1.ext (ordered_obj_iff.1 hw).1
    intro key
    have hbelow : ∀ rest, (Members.find? key members).bind (seen · rest) =
        (Members.find? key more).bind (seen · rest) := by
      intro rest
      have hpath := h (key :: rest)
      rwa [seen_cons, seen_cons] at hpath
    cases hx : Members.find? key members with
    | none =>
      cases hy : Members.find? key more with
      | none => rfl
      | some y =>
        rw [hx, hy] at hbelow
        nomatch hbelow []
    | some x =>
      cases hy : Members.find? key more with
      | none =>
        rw [hx, hy] at hbelow
        nomatch hbelow []
      | some y =>
        rw [hx, hy] at hbelow
        have hsmaller : sizeOf x < sizeOf (Value.obj members) := sizeOf_member? hx
        exact congrArg some (Ordered.eq_of_seen (hv.of_member? hx) (hw.of_member? hy) hbelow)
termination_by sizeOf v

theorem exists_members_above (h : v.get? (above ++ below) = some (.obj members)) :
    ∃ inner, v.get? above = some (.obj inner) := by
  rw [get?_append, Option.bind_eq_some_iff] at h
  obtain ⟨x, hx, hbelow⟩ := h
  cases below with
  | nil => exact ⟨members, hx.trans hbelow⟩
  | cons key rest =>
    rw [get?_cons, Option.bind_eq_some_iff] at hbelow
    obtain ⟨child, hchild, -⟩ := hbelow
    obtain ⟨inner, rfl, -⟩ := member?_eq_some_iff.1 hchild
    exact ⟨inner, hx⟩

end Value

theorem Edit.seen_deleteKey {v w : Value} {path : KeyPath} (h : deleteKey v path = .ok w)
    (other : KeyPath) : w.seen other = if path <+: other then none else v.seen other := by
  obtain ⟨parent, key, members, rfl, hparent, -, hreplace⟩ := deleteKey_eq_ok.1 h
  have hafter := Value.get?_replace? hreplace
  split
  · next hpath =>
    obtain ⟨below, rfl⟩ := hpath
    rw [List.append_assoc, List.singleton_append, Value.seen, Value.get?_append_of_get? hafter,
      Value.get?_cons, Value.member?_obj, Members.find?_remove_self]
    rfl
  · next hpath =>
    by_cases habove : other <+: parent
    · obtain ⟨below, rfl⟩ := habove
      obtain ⟨inner, hinner⟩ := Value.exists_members_above hparent
      obtain ⟨left, hleft⟩ := Value.exists_members_above hafter
      rw [Value.seen_of_mapping hinner, Value.seen_of_mapping hleft]
    · rw [Value.seen, Value.seen, Value.get?_replace?_of_apart hparent hreplace habove]
      intro k hk
      have hne : k ≠ key := by
        rintro rfl
        exact hpath hk
      rw [Members.find?_remove_of_ne members hne, Value.member?_obj]

end FormTree
