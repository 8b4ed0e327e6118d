import FormTree.Proofs.Tree.Order

/-!
# Storing what was typed as one assignment

To store a text at a path assigns the node there, and nothing else. What can be in the way is a node
above that has no room for a key, neither a mapping nor `null`, and there is at most one, as nothing
is below it. An input is refused for its path, then for its text, and then for such a node
(`setValue_eq_error_iff`); it is accepted otherwise. Of two inputs at one path only the second is
seen (`storeFrom_storeFrom`).
-/

namespace FormTree

namespace Value

variable {v w x y new : Value} {key : String} {path above done rest : KeyPath}
  {members : List (String × Value)}

/-! ### What is in the way -/

/-- The node at the path has no room for a key: it is neither a mapping nor `null`. -/
def Blocks (v : Value) (path : KeyPath) : Prop :=
  ∃ x, v.get? path = some x ∧ x.isNull = false ∧ x.isContainer = false

/-- The node at `above` is the first one in the way to `path`. -/
structure FirstBlock (v : Value) (path above : KeyPath) : Prop where
  onWay : above <+: path
  proper : above ≠ path
  blocks : v.Blocks above
  first : ∀ shorter, shorter <+: above → shorter ≠ above → ¬ v.Blocks shorter

/-- The keys of the mapping at a path; where there is none there are no keys. -/
def keysAt (v : Value) (path : KeyPath) : List String :=
  ((v.get? path).bind members?).elim [] Members.keys

theorem not_blocks_iff : ¬ v.Blocks path ↔
    ∃ members, opened true (v.get? path) = .obj members ∧ Members.keys members = v.keysAt path := by
  rw [Blocks, keysAt]
  cases v.get? path with
  | none => simp [opened, Members.keys]
  | some x => cases x <;> simp [opened, isNull, isContainer, members?, Members.keys]

theorem Blocks.get?_append (h : v.Blocks path) (hne : rest ≠ []) :
    v.get? (path ++ rest) = none := by
  obtain ⟨x, hx, -, hleaf⟩ := h
  obtain ⟨key, below, rfl⟩ := List.exists_cons_of_ne_nil hne
  rw [get?_append_of_get? hx, get?_cons]
  cases hmember : x.member? key with
  | none => rfl
  | some child =>
    obtain ⟨members, rfl, -⟩ := member?_eq_some_iff.1 hmember
    exact Bool.noConfusion hleaf

/-- Below a node that blocks there is none, so no other one blocks. -/
theorem Blocks.not_of_proper {shorter : KeyPath} (h : v.Blocks path) (habove : shorter <+: path)
    (hne : shorter ≠ path) : ¬ v.Blocks shorter := by
  intro hshorter
  obtain ⟨rest, rfl⟩ := habove
  have hrest : rest ≠ [] := by
    rintro rfl
    exact hne (List.append_nil shorter).symm
  obtain ⟨x, hx, -⟩ := h
  exact Option.some_ne_none x (hx.symm.trans (hshorter.get?_append hrest))

theorem firstBlock_iff : v.FirstBlock path above ↔
    above <+: path ∧ above ≠ path ∧ v.Blocks above :=
  ⟨fun h => ⟨h.onWay, h.proper, h.blocks⟩, fun ⟨honWay, hproper, hblocks⟩ =>
    ⟨honWay, hproper, hblocks, fun _ => hblocks.not_of_proper⟩⟩

theorem roomFor?_eq_none (hnull : v.isNull = false) (hleaf : v.isContainer = false) :
    v.roomFor? = none := by
  cases v with
  | null => exact Bool.noConfusion hnull
  | obj members => exact Bool.noConfusion hleaf
  | _ => rfl

theorem storeFrom_of_blocks (h : v.Blocks above) (done : KeyPath) (key : String) (rest : KeyPath)
    (new : Value) :
    storeFrom done v (above ++ key :: rest) new = .error (.noMappingAt (done ++ above)) := by
  induction above generalizing done v with
  | nil =>
    obtain ⟨x, hx, hnull, hleaf⟩ := h
    obtain rfl := Option.some.inj hx
    rw [List.nil_append, storeFrom, roomFor?_eq_none hnull hleaf, List.append_nil]
  | cons first above ih =>
    obtain ⟨x, hx, hleaf⟩ := h
    rw [get?_cons, Option.bind_eq_some_iff] at hx
    obtain ⟨child, hchild, hx⟩ := hx
    obtain ⟨members, rfl, hfind⟩ := member?_eq_some_iff.1 hchild
    rw [List.cons_append, storeFrom]
    simp only [roomFor?, hfind, Option.getD_some]
    rw [ih ⟨x, hx, hleaf⟩, List.append_assoc, List.singleton_append]
    rfl

theorem exists_storeFrom_iff (done : KeyPath) (new : Value) :
    (∃ w, storeFrom done v path new = .ok w) ↔
      ∀ above, above <+: path → above ≠ path → ¬ v.Blocks above := by
  constructor
  · rintro ⟨w, hw⟩ above ⟨rest, rfl⟩ hne hblocks
    cases rest with
    | nil => exact hne (List.append_nil above).symm
    | cons key rest => nomatch hw.symm.trans (storeFrom_of_blocks hblocks done key rest new)
  · intro h
    refine exists_storeFrom (fun above habove hne => ?_) done new
    obtain ⟨members, hopened, -⟩ := not_blocks_iff.1 (h above habove hne)
    exact ⟨members, hopened⟩

/-- A refusal names the first node in the way. -/
theorem store_eq_error_iff {fault : FieldError} : v.store path new = .error fault ↔
    ∃ above, v.FirstBlock path above ∧ fault = .noMappingAt above := by
  have hrefused : ∀ above, v.FirstBlock path above →
      v.store path new = .error (.noMappingAt above) := by
    intro above h
    obtain ⟨rest, rfl⟩ := h.onWay
    cases rest with
    | nil => exact absurd (List.append_nil above).symm h.proper
    | cons key rest => exact storeFrom_of_blocks h.blocks [] key rest new
  constructor
  · intro h
    by_contra hnone
    have hfree : ∀ above, above <+: path → above ≠ path → ¬ v.Blocks above := by
      intro above honWay hproper hblocks
      have hfirst := firstBlock_iff.2 ⟨honWay, hproper, hblocks⟩
      refine hnone ⟨above, hfirst, ?_⟩
      exact Except.error.inj (h.symm.trans (hrefused above hfirst))
    obtain ⟨w, hw⟩ := (exists_storeFrom_iff [] new).2 hfree
    nomatch h.symm.trans hw
  · rintro ⟨above, hfirst, rfl⟩
    exact hrefused above hfirst

/-! ### One store after another -/

theorem storeFrom_cons_of_opened (h : opened true (some v) = .obj members) (done : KeyPath)
    (key : String) (rest : KeyPath) (new : Value) : storeFrom done v (key :: rest) new =
      (storeFrom (done ++ [key]) ((Members.find? key members).getD (.obj [])) rest new).map
        fun child => .obj (Members.put key child members) := by
  obtain ⟨fresh, hroom⟩ := exists_roomFor?_iff.2 h
  rw [storeFrom, hroom]

theorem storeFrom_storeFrom (h : storeFrom done v path x = .ok w) (y : Value) :
    storeFrom done w path y = storeFrom done v path y := by
  induction path generalizing done v w with
  | nil => rfl
  | cons key rest ih =>
    obtain ⟨members, child, hopened, hchild, rfl⟩ := storeFrom_cons_eq_ok.1 h
    rw [storeFrom_cons_of_opened rfl, storeFrom_cons_of_opened hopened, Members.find?_put_self,
      Option.getD_some, ih hchild]
    simp only [Members.put_put]

theorem exists_keys_storeFrom (h : storeFrom done v (above ++ key :: rest) x = .ok w) :
    ∃ members, w.get? above = some (.obj members) ∧
      ∀ k, k ∈ Members.keys members ↔ k = key ∨ k ∈ v.keysAt above := by
  obtain ⟨members, child, hopened, hmapping⟩ := get?_storeFrom_above h
  have hfree : ¬ v.Blocks above :=
    (exists_storeFrom_iff done x).1 ⟨w, h⟩ above (List.prefix_append _ _) fun heq => by simp at heq
  obtain ⟨before, hbefore, hkeys⟩ := not_blocks_iff.1 hfree
  obtain rfl : members = before := Value.obj.inj (hopened.symm.trans hbefore)
  refine ⟨_, hmapping, fun k => ?_⟩
  rw [Members.mem_keys_put_iff, hkeys]

end Value

namespace Edit

open Value

variable {root next : Value} {path : KeyPath} {raw : String} {kind : InputKind}
  {fault : FieldError}

theorem setValue_of_ne_nil (hne : path ≠ []) : setValue root path raw kind =
    (coerce raw kind).bind fun new => root.store path new := by
  obtain ⟨parent, key, rfl⟩ := (List.eq_nil_or_concat path).resolve_left hne
  rw [setValue, List.concat_eq_append, splitLast_concat]
  rfl

theorem exists_setValue_iff : (∃ next, setValue root path raw kind = .ok next) ↔
    path ≠ [] ∧ (∃ new, coerce raw kind = .ok new) ∧
      ∀ above, above <+: path → above ≠ path → ¬ root.Blocks above := by
  simp only [setValue_eq_ok]
  constructor
  · rintro ⟨next, hne, new, hnew, hstore⟩
    exact ⟨hne, ⟨new, hnew⟩, (exists_storeFrom_iff [] new).1 ⟨next, hstore⟩⟩
  · rintro ⟨hne, ⟨new, hnew⟩, hfree⟩
    obtain ⟨next, hstore⟩ := (exists_storeFrom_iff [] new).2 hfree
    exact ⟨next, hne, new, hnew, hstore⟩

theorem setValue_eq_error_iff : setValue root path raw kind = .error fault ↔
    path = [] ∧ fault = .notFound "" ∨
      path ≠ [] ∧ coerce raw kind = .error fault ∧ fault = .invalidNumber raw ∨
      path ≠ [] ∧ (∃ new, coerce raw kind = .ok new) ∧
        ∃ above, root.FirstBlock path above ∧ fault = .noMappingAt above := by
  have hinvalid : coerce raw kind = .error fault ∧ fault = .invalidNumber raw ↔
      coerce raw kind = .error fault :=
    ⟨And.left, fun h => ⟨h, eq_invalidNumber_of_coerce h⟩⟩
  rw [hinvalid]
  by_cases hpath : path = []
  · subst hpath
    simp [setValue, splitLast, Except.bind, eq_comm]
  · simp only [setValue_of_ne_nil hpath, except_bind_eq_error, store_eq_error_iff, hpath,
      exists_and_right, false_and, true_and, false_or, ne_eq, not_false_eq_true]

/-- To set a value is one assignment. It is accepted if the path is not that of the root, a value
can be made of the text, and every node above is a mapping, `null` or missing. Then the value is at
the path, each node above is a mapping that has at most the next key in addition, every path that
branches off holds what it held, and another input at the path has the result that it has without
this one. A refusal is of the root, or else of the text, or else of the first node above that has no
room for a key. -/
theorem input_is_one_assignment (root : Value) (path : KeyPath) (raw : String) (kind : InputKind) :
    ((∃ next, setValue root path raw kind = .ok next) ↔
      path ≠ [] ∧ (∃ new, coerce raw kind = .ok new) ∧
        ∀ above, above <+: path → above ≠ path → ¬ root.Blocks above) ∧
      (∀ next, setValue root path raw kind = .ok next →
        (∃ new, coerce raw kind = .ok new ∧ next.get? path = some new) ∧
          (∀ above key rest, path = above ++ key :: rest →
            ∃ members, next.get? above = some (.obj members) ∧
              ∀ k, k ∈ Members.keys members ↔ k = key ∨ k ∈ root.keysAt above) ∧
          (∀ other, ¬ other <+: path → ¬ path <+: other → next.get? other = root.get? other) ∧
          (∀ again sort, setValue next path again sort = setValue root path again sort) ∧
          (root.Ordered → next.Ordered)) ∧
      ∀ fault, setValue root path raw kind = .error fault ↔
        path = [] ∧ fault = .notFound "" ∨
          path ≠ [] ∧ coerce raw kind = .error fault ∧ fault = .invalidNumber raw ∨
          path ≠ [] ∧ (∃ new, coerce raw kind = .ok new) ∧
            ∃ above, root.FirstBlock path above ∧
              fault = .notAContainer (Dotted.encode above) := by
  refine ⟨exists_setValue_iff, fun next hnext => ?_, fun fault => setValue_eq_error_iff⟩
  obtain ⟨hne, new, hnew, hstore⟩ := setValue_eq_ok.1 hnext
  refine ⟨⟨new, hnew, get?_storeFrom hstore⟩, ?_, fun other => get?_storeFrom_of_apart hstore,
    fun again sort => ?_, fun hroot => ordered_setValue hroot hnext⟩
  · rintro above key rest rfl
    exact exists_keys_storeFrom hstore
  · rw [setValue_of_ne_nil hne, setValue_of_ne_nil hne]
    simp only [store, storeFrom_storeFrom hstore]

/-- A mapping is made of `null`, and none of a text. -/
theorem input_makes_mapping_of_null :
    let root : Value := .obj [("a", .null), ("b", .str "x")]
    (∃ next, setValue root ["a", "c"] "7" .integer = .ok next ∧
        next.get? ["a", "c"] = some (.num (.int 7)) ∧ next.get? ["b"] = some (.str "x")) ∧
      setValue root ["b", "c"] "7" .integer = .error (.notAContainer "b") := by
  intro root
  obtain ⟨-, haccepted, -⟩ := input_is_one_assignment root ["a", "c"] "7" .integer
  obtain ⟨-, -, hrefused⟩ := input_is_one_assignment root ["b", "c"] "7" .integer
  have hblock : root.FirstBlock ["b", "c"] ["b"] :=
    firstBlock_iff.2 ⟨⟨["c"], rfl⟩, by decide, .str "x", rfl, rfl, rfl⟩
  obtain ⟨⟨new, hnew, hget⟩, -, hframe, -⟩ := haccepted _ rfl
  obtain rfl := Except.ok.inj hnew
  exact ⟨⟨_, rfl, hget, hframe ["b"] (by decide) (by decide)⟩,
    (hrefused _).2 (.inr (.inr ⟨by decide, ⟨_, rfl⟩, ["b"], hblock, rfl⟩))⟩

end Edit

end FormTree
