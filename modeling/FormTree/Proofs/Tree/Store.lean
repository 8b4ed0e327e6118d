import FormTree.Proofs.Tree.Edit
import FormTree.Proofs.Tree.Growth

/-!
# Storing at a path

A store that is accepted is seen from three sides. At its path and below there is what was stored.
At every node above, the mapping that was there, or was opened there, has one entry set. And every
path that branches off holds what it held. Between them the three cover all paths.
-/

namespace FormTree

namespace Value

variable {v w new : Value} {key : String} {path above rest other done : KeyPath}
  {members : List (String × Value)}

/-! ### One step down -/

theorem exists_roomFor?_iff :
    (∃ fresh, v.roomFor? = some (members, fresh)) ↔ opened true (some v) = .obj members := by
  cases v <;> simp [roomFor?, opened, eq_comm]

/-- Below a key, storing goes on in what is there, or in an empty mapping. -/
theorem storeFrom_cons_eq_ok : storeFrom done v (key :: rest) new = .ok w ↔
    ∃ members child, opened true (some v) = .obj members ∧
      storeFrom (done ++ [key]) ((Members.find? key members).getD (.obj [])) rest new = .ok child ∧
      .obj (Members.put key child members) = w := by
  rw [storeFrom]
  constructor
  · intro h
    split at h
    · exact absurd h (by simp)
    · next members fresh hroom =>
      obtain ⟨child, hchild, hw⟩ := except_map_eq_ok.1 h
      exact ⟨members, child, exists_roomFor?_iff.1 ⟨fresh, hroom⟩, hchild, hw⟩
  · rintro ⟨members, child, hopened, hchild, hw⟩
    obtain ⟨fresh, hroom⟩ := exists_roomFor?_iff.2 hopened
    rw [hroom]
    exact except_map_eq_ok.2 ⟨child, hchild, hw⟩

theorem find?_of_opened (h : opened true (some v) = .obj members) (key : String) :
    Members.find? key members = v.member? key := by
  have hmember := member?_opened true (some v) key
  rw [h, member?_obj, Option.bind_some] at hmember
  exact hmember

theorem get?_of_empty (hne : path ≠ []) : (Value.obj []).get? path = none := by
  obtain ⟨key, rest, rfl⟩ := List.exists_cons_of_ne_nil hne
  rfl

theorem exists_storeFrom (h : ∀ above, above <+: path → above ≠ path →
      ∃ members, opened true (v.get? above) = .obj members) (done : KeyPath) (new : Value) :
    ∃ w, storeFrom done v path new = .ok w := by
  induction path generalizing done v with
  | nil => exact ⟨new, rfl⟩
  | cons key rest ih =>
    obtain ⟨members, hopened⟩ := h [] List.nil_prefix (List.cons_ne_nil key rest).symm
    have hbelow : ∀ above, above <+: rest → above ≠ rest → ∃ inside,
        opened true (((Members.find? key members).getD (.obj [])).get? above) = .obj inside := by
      intro above habove hne
      have hcons : key :: above ≠ key :: rest := fun heq => hne (List.cons.inj heq).2
      have hroom := h (key :: above) ((List.prefix_cons_inj key).2 habove) hcons
      rw [get?_cons, ← find?_of_opened hopened] at hroom
      cases hfind : Members.find? key members with
      | some x =>
        rw [hfind, Option.bind_some] at hroom
        exact hroom
      | none =>
        cases above with
        | nil => exact ⟨[], rfl⟩
        | cons second below => exact ⟨[], rfl⟩
    obtain ⟨child, hchild⟩ := ih hbelow (done ++ [key])
    exact ⟨_, storeFrom_cons_eq_ok.2 ⟨members, child, hopened, hchild, rfl⟩⟩

/-! ### What there is after a store -/

/-- At the path and below there is what was stored. -/
theorem get?_storeFrom_append (h : storeFrom done v path new = .ok w) (below : KeyPath) :
    w.get? (path ++ below) = new.get? below := by
  induction path generalizing done v w with
  | nil =>
    rw [storeFrom, Except.ok.injEq] at h
    rw [h, List.nil_append]
  | cons key rest ih =>
    obtain ⟨members, child, -, hchild, rfl⟩ := storeFrom_cons_eq_ok.1 h
    rw [List.cons_append, get?_cons, member?_obj, Members.find?_put_self, Option.bind_some,
      ih hchild]

theorem get?_storeFrom (h : storeFrom done v path new = .ok w) : w.get? path = some new := by
  have hself := get?_storeFrom_append h []
  rwa [List.append_nil, get?_nil] at hself

/-- Above the path, a mapping that was there, or was opened, has one entry set. -/
theorem get?_storeFrom_above (h : storeFrom done v (above ++ key :: rest) new = .ok w) :
    ∃ members child, opened true (v.get? above) = .obj members ∧
      w.get? above = some (.obj (Members.put key child members)) := by
  induction above generalizing done v w with
  | nil =>
    obtain ⟨members, child, hopened, -, rfl⟩ := storeFrom_cons_eq_ok.1 h
    exact ⟨members, child, hopened, rfl⟩
  | cons first above ih =>
    obtain ⟨siblings, node, hopened, hnode, rfl⟩ := storeFrom_cons_eq_ok.1 h
    obtain ⟨members, child, hmembers, hchild⟩ := ih hnode
    refine ⟨members, child, ?_, ?_⟩
    · rw [find?_of_opened hopened] at hmembers
      rw [get?_cons]
      cases hfirst : v.member? first with
      | some x => rwa [hfirst] at hmembers
      | none =>
        rw [hfirst, Option.getD_none] at hmembers
        rw [← hmembers, Option.bind_none]
        cases above with
        | nil => rfl
        | cons second below => rfl
    · rw [get?_cons, member?_obj, Members.find?_put_self, Option.bind_some, hchild]

theorem get?_storeFrom_of_apart (h : storeFrom done v path new = .ok w)
    (hother : ¬ other <+: path) (hpath : ¬ path <+: other) : w.get? other = v.get? other := by
  induction path generalizing done v w other with
  | nil => exact absurd List.nil_prefix hpath
  | cons key rest ih =>
    obtain ⟨members, child, hopened, hchild, rfl⟩ := storeFrom_cons_eq_ok.1 h
    cases other with
    | nil => exact absurd List.nil_prefix hother
    | cons first below =>
      rw [get?_cons, get?_cons, member?_obj]
      by_cases hfirst : first = key
      · subst hfirst
        rw [List.prefix_cons_inj] at hother hpath
        rw [Members.find?_put_self, Option.bind_some, ih hchild hother hpath,
          find?_of_opened hopened]
        cases hmember : v.member? first with
        | some x => rfl
        | none =>
          have hne : below ≠ [] := fun hnil => hother (hnil ▸ List.nil_prefix)
          exact get?_of_empty hne
      · rw [Members.find?_put_of_ne child members hfirst, find?_of_opened hopened]

end Value

/-! ### Storing what was typed -/

variable {root next new : Value} {path : KeyPath} {raw : String} {kind : InputKind}

theorem coerce_cases (h : coerce raw kind = .ok new) :
    raw = "" ∧ new = .null ∨ raw ≠ "" ∧ ((∃ text, new = .str text) ∨ ∃ n, new = .num n) := by
  rw [coerce] at h
  split at h
  · next hempty => exact .inl ⟨String.isEmpty_iff.1 hempty, (Except.ok.inj h).symm⟩
  · next hempty =>
    refine .inr ⟨fun hraw => hempty (String.isEmpty_iff.2 hraw), ?_⟩
    split at h
    · exact .inl ⟨raw, (Except.ok.inj h).symm⟩
    · split at h
      · next n _ => exact .inr ⟨n, (Except.ok.inj h).symm⟩
      · exact absurd h (by simp)

theorem eq_invalidNumber_of_coerce {fault : FieldError} (h : coerce raw kind = .error fault) :
    fault = .invalidNumber raw := by
  rw [coerce] at h
  split at h
  · exact absurd h (by simp)
  · split at h
    · exact absurd h (by simp)
    · split at h
      · exact absurd h (by simp)
      · exact (Except.error.inj h).symm

theorem eq_null_iff_of_coerce (h : coerce raw kind = .ok new) : new = .null ↔ raw = "" := by
  obtain ⟨hraw, hnew⟩ | ⟨hraw, ⟨text, rfl⟩ | ⟨n, rfl⟩⟩ := coerce_cases h
  · exact iff_of_true hnew hraw
  · exact iff_of_false (by simp) hraw
  · exact iff_of_false (by simp) hraw

theorem isContainer_of_coerce (h : coerce raw kind = .ok new) : new.isContainer = false := by
  obtain ⟨-, rfl⟩ | ⟨-, ⟨text, rfl⟩ | ⟨n, rfl⟩⟩ := coerce_cases h <;> rfl

theorem Edit.setValue_eq_ok : Edit.setValue root path raw kind = .ok next ↔
    path ≠ [] ∧ ∃ new, coerce raw kind = .ok new ∧ root.store path new = .ok next := by
  simp only [Edit.setValue, except_bind_eq_ok, Prod.exists, Edit.splitLast_eq_ok]
  constructor
  · rintro ⟨parent, key, rfl, hnew⟩
    exact ⟨List.concat_ne_nil key parent, hnew⟩
  · rintro ⟨hne, hnew⟩
    obtain ⟨parent, key, rfl⟩ := (List.eq_nil_or_concat path).resolve_left hne
    exact ⟨parent, key, List.concat_eq_append, hnew⟩

end FormTree
