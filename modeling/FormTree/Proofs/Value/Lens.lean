import FormTree.Proofs.Value.Lookup

/-!
# The lens of a path

Looking a node up at a path and putting another one there are the two sides of a lens. Both find a
node unless the path crosses a node that it cannot go on from, a scalar, an array or a mapping
without the next key (`get?_eq_none_iff`). What is put is found at the path and below it, a path
that branches off leads where it led, and the old node put back gives the old value
(`replacement_is_a_lens`).
-/

namespace FormTree

namespace Value

variable {v child : Value} {key : String} {path rest : KeyPath}

/-- On its way the path comes to a node that it cannot go on from: a scalar, an array or a mapping
without the next key. -/
def Crosses (v : Value) (path : KeyPath) : Prop :=
  ∃ above key below node, path = above ++ key :: below ∧ v.get? above = some node ∧
    (node.isContainer = false ∨ ∃ members, node = .obj members ∧ key ∉ Members.keys members)

/-- The value as it is left when a node is put at a path: without a node there, nothing is put. -/
def written (v : Value) (path : KeyPath) (new : Value) : Value := (v.replace? path new).getD v

theorem member?_eq_none_iff : v.member? key = none ↔
    v.isContainer = false ∨ ∃ members, v = .obj members ∧ key ∉ Members.keys members := by
  cases v with
  | obj members => simp [member?, members?, isContainer, Members.find?_eq_none_iff]
  | _ => simp [member?, members?, isContainer]

theorem crosses_of_no_member (h : v.member? key = none) : v.Crosses (key :: rest) :=
  ⟨[], key, rest, v, rfl, rfl, member?_eq_none_iff.1 h⟩

theorem crosses_cons_iff (h : v.member? key = some child) :
    v.Crosses (key :: rest) ↔ child.Crosses rest := by
  constructor
  · intro hcrosses
    obtain ⟨above, next, below, node, hpath, hnode, hstop⟩ := hcrosses
    cases above with
    | nil =>
      obtain ⟨rfl, rfl⟩ := List.cons.inj hpath
      obtain rfl : v = node := Option.some.inj hnode
      rw [member?_eq_none_iff.2 hstop] at h
      cases h
    | cons first above =>
      obtain ⟨rfl, rfl⟩ := List.cons.inj hpath
      rw [get?_cons, h, Option.bind_some] at hnode
      exact ⟨above, next, below, node, rfl, hnode, hstop⟩
  · intro hcrosses
    obtain ⟨above, next, below, node, hpath, hnode, hstop⟩ := hcrosses
    refine ⟨key :: above, next, below, node, ?_, ?_, hstop⟩
    · rw [hpath, List.cons_append]
    · rw [get?_cons, h, Option.bind_some, hnode]

/-- A path leads to no node exactly if it crosses one that it cannot go on from. -/
theorem get?_eq_none_iff : v.get? path = none ↔ v.Crosses path := by
  induction path generalizing v with
  | nil => simp [Crosses]
  | cons key rest ih =>
    rw [get?_cons]
    cases hmember : v.member? key with
    | none => exact iff_of_true rfl (crosses_of_no_member hmember)
    | some child => rw [Option.bind_some, ih, crosses_cons_iff hmember]

theorem replace?_of_crosses (h : v.Crosses path) (new : Value) : v.replace? path new = none := by
  rw [← Option.not_isSome_iff_eq_none, isSome_replace?, get?_eq_none_iff.2 h]
  exact Bool.false_ne_true

/-- A node can be put at a path exactly if there is one. It is then found at the path with all that
is in it, every path that branches off leads where it led, and putting the old node back gives the
old value. A path that crosses a scalar, an array or a missing key, and no other path, is found by
neither side, and nothing changes. -/
theorem replacement_is_a_lens (v new : Value) (path : KeyPath) :
    (v.replace? path new).isSome = (v.get? path).isSome ∧
    (∀ old, v.get? path = some old →
      ∃ w, v.replace? path new = some w ∧
        (∀ below, w.get? (path ++ below) = new.get? below) ∧
        (∀ other, ¬ other <+: path → ¬ path <+: other → w.get? other = v.get? other) ∧
        w.replace? path old = some v) ∧
    (v.get? path = none ↔ v.Crosses path) ∧
    (v.Crosses path → v.replace? path new = none ∧ v.written path new = v) := by
  refine ⟨isSome_replace? v path new, ?_, get?_eq_none_iff, ?_⟩
  · intro old hold
    obtain ⟨w, hw⟩ := exists_replace? hold new
    refine ⟨w, hw, get?_replace?_append hw, ?_, ?_⟩
    · intro other hother hpath
      exact get?_replace?_of_diverging hw hother hpath
    · rw [replace?_replace? hw]
      exact replace?_get? hold
  · intro hcrosses
    have hnone : v.replace? path new = none := replace?_of_crosses hcrosses new
    refine ⟨hnone, ?_⟩
    rw [written, hnone, Option.getD_none]

theorem node_beside_an_array_is_replaced :
    let v : Value := .obj [("a", .obj [("b", .num (.int 1)), ("c", .arr [.null])])]
    v.get? ["a", "b"] = some (.num (.int 1)) ∧
      (∃ w, v.replace? ["a", "b"] (.obj [("d", .null)]) = some w ∧
        w.get? ["a", "b", "d"] = some .null ∧ w.get? ["a", "c"] = some (.arr [.null]) ∧
        w.replace? ["a", "b"] (.num (.int 1)) = some v) ∧
      v.Crosses ["a", "c", "0"] ∧ v.written ["a", "c", "0"] .null = v := by
  intro v
  have hcrosses : v.Crosses ["a", "c", "0"] :=
    ⟨["a", "c"], "0", [], .arr [.null], rfl, rfl, .inl rfl⟩
  obtain ⟨-, hfound, -, -⟩ := replacement_is_a_lens v (.obj [("d", .null)]) ["a", "b"]
  obtain ⟨-, -, -, hlost⟩ := replacement_is_a_lens v .null ["a", "c", "0"]
  obtain ⟨w, hw, hbelow, hbeside, hback⟩ := hfound (.num (.int 1)) rfl
  refine ⟨rfl, ⟨w, hw, hbelow ["d"], ?_, hback⟩, hcrosses, (hlost hcrosses).2⟩
  exact hbeside ["a", "c"] (by decide) (by decide)

end Value

end FormTree
