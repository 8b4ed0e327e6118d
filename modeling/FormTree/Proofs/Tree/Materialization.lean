import FormTree.Proofs.Tree.Assignment

/-!
# Materializing as one store

`materialize` changes a value on its way down and may meet a node in the way later, so that it
leaves no trace when it fails has to be proved. It does because what it creates has room for the
next key: once it has changed something, nothing is in its way any more. All that it does is one
store, of the opened node at the path (`materialize_eq_ok_iff`, `materialize_eq_error_iff`), so what
is known of stores says what is there afterwards.

An empty input is such a store too. The two build the same mappings on the way to a leaf, or refuse
for the same node.
-/

namespace FormTree

namespace Value

variable {v w x : Value} {path : KeyPath} {members : List (String × Value)}
  {container made : Bool} {fault : FieldError}

/-! ### What is to be created -/

/-- There is no node, or a container is wanted and there is `null`. -/
def lacks (container : Bool) : Option Value → Bool
  | none => true
  | some v => container && v.isNull

theorem lacks_eq_false_iff {held : Option Value} :
    lacks container held = false ↔ held = some (opened container held) := by
  cases held with
  | none => simp [lacks]
  | some v => cases v <;> cases container <;> simp [lacks, opened, isNull]

theorem not_blocks_empty : ¬ (Value.obj []).Blocks path := by
  rintro ⟨x, hx, -, hleaf⟩
  cases path with
  | nil =>
    obtain rfl := Option.some.inj hx
    exact Bool.noConfusion hleaf
  | cons key rest => exact Option.some_ne_none x hx.symm

theorem exists_storeFrom_empty (done path : KeyPath) (new : Value) :
    ∃ w, storeFrom done (.obj []) path new = .ok w :=
  (exists_storeFrom_iff done new).2 fun _ _ _ => not_blocks_empty

/-- A node that was entered for its key is built up as an empty mapping would be. -/
theorem storeFrom_fresh (container : Bool) (done rest : KeyPath) :
    storeFrom done (fresh container rest.isEmpty) rest
        (opened container ((fresh container rest.isEmpty).get? rest)) =
      storeFrom done (.obj []) rest (opened container none) := by
  cases rest with
  | nil => cases container <;> rfl
  | cons key below => rfl

/-- To grow is to store the opened node, and a failure changes nothing. -/
theorem grow_eq_store (container : Bool) (done : KeyPath) (v : Value) (path : KeyPath) :
    grow container done v path =
      match storeFrom done v path (opened container (v.get? path)) with
      | .ok w => (w, .ok (lacks container (v.get? path)))
      | .error fault => (v, .error fault) := by
  induction path generalizing done v with
  | nil =>
    rw [grow, storeFrom, get?_nil, opened_some, lacks]
    cases container && v.isNull <;> rfl
  | cons key rest ih =>
    cases hroom : v.roomFor? with
    | none => rw [grow, storeFrom, hroom]
    | some room =>
      obtain ⟨members, wasNull⟩ := room
      have hopened : opened true (some v) = .obj members :=
        exists_roomFor?_iff.1 ⟨wasNull, hroom⟩
      have hmember := find?_of_opened hopened key
      cases hfind : Members.find? key members with
      | some child =>
        rw [hfind] at hmember
        obtain ⟨siblings, rfl, -⟩ := member?_eq_some_iff.1 hmember.symm
        obtain rfl : siblings = members := Value.obj.inj hopened
        rw [grow_cons_of_find? hfind, ih, storeFrom_cons_of_opened rfl, get?_cons, member?_obj,
          hfind, Option.bind_some, Option.getD_some]
        cases storeFrom (done ++ [key]) child rest (opened container (child.get? rest)) with
        | ok w => rfl
        | error fault =>
          show (Value.obj (Members.put key child siblings), _) = _
          rw [Members.put_find? hfind]
          rfl
      | none =>
        have hheld : v.get? (key :: rest) = none := by
          rw [get?_cons, ← hmember, hfind, Option.bind_none]
        -- Below a node that is entered nothing fails, so nothing has to be taken back.
        obtain ⟨w, hw⟩ := exists_storeFrom_empty (done ++ [key]) rest (opened container none)
        rw [grow_cons_of_find?_eq_none hroom hfind, ih, storeFrom_fresh, hheld,
          storeFrom_cons_of_opened hopened, hfind, Option.getD_none, hw]
        rfl

theorem materialize_eq_ok_iff : v.materialize path container = (w, .ok made) ↔
    v.store path (opened container (v.get? path)) = .ok w ∧
      lacks container (v.get? path) = made := by
  rw [materialize, grow_eq_store, store]
  cases storeFrom [] v path (opened container (v.get? path)) <;> simp

theorem materialize_eq_error_iff : v.materialize path container = (w, .error fault) ↔
    v = w ∧ v.store path (opened container (v.get? path)) = .error fault := by
  rw [materialize, grow_eq_store, store]
  cases storeFrom [] v path (opened container (v.get? path)) <;> simp

theorem materialize_root (v : Value) :
    ∃ made, v.materialize [] true = (opened true (some v), .ok made) :=
  ⟨_, materialize_eq_ok_iff.2 ⟨rfl, rfl⟩⟩

/-- Below a mapping that is there nothing fails: the node at one more key is opened. -/
theorem materialize_concat (h : v.get? path = some (.obj members)) (container : Bool)
    (key : String) : ∃ w made, v.materialize (path ++ [key]) container = (w, .ok made) ∧
      v.replace? path
        (.obj (Members.put key (opened container (Members.find? key members)) members)) =
          some w := by
  have hheld : v.get? (path ++ [key]) = Members.find? key members := by
    rw [get?_append_of_get? h, get?_cons, member?_obj]
    exact Option.bind_fun_some _
  obtain ⟨w, hw⟩ := exists_replace? h
    (.obj (Members.put key (opened container (Members.find? key members)) members))
  refine ⟨w, _, materialize_eq_ok_iff.2 ⟨?_, rfl⟩, hw⟩
  rw [hheld]
  exact storeFrom_append_of_get? h rfl hw

/-! ### What there is afterwards -/

theorem get?_materialize (h : v.materialize path container = (w, .ok made)) :
    w.get? path = some (opened container (v.get? path)) :=
  get?_storeFrom (materialize_eq_ok_iff.1 h).1

theorem get?_materialize_of_not_above (h : v.materialize path container = (w, .ok made))
    {other : KeyPath} (hother : ¬ other <+: path) : w.get? other = v.get? other := by
  have hstore := (materialize_eq_ok_iff.1 h).1
  by_cases hpath : path <+: other
  · obtain ⟨below, rfl⟩ := hpath
    have hne : below ≠ [] := by
      rintro rfl
      rw [List.append_nil] at hother
      exact hother List.prefix_rfl
    obtain ⟨key, rest, rfl⟩ := List.exists_cons_of_ne_nil hne
    rw [get?_storeFrom_append hstore, get?_append, get?_cons, member?_opened, Option.bind_assoc]
    rfl
  · exact get?_storeFrom_of_apart hstore hother hpath

theorem eq_of_materialize (h : v.materialize path container = (w, .ok false)) : w = v := by
  obtain ⟨hstore, hlacks⟩ := materialize_eq_ok_iff.1 h
  have hkept := store_of_replace? (replace?_get? (lacks_eq_false_iff.1 hlacks))
  exact Except.ok.inj (hstore.symm.trans hkept)

theorem not_same_of_materialize (h : v.materialize path container = (w, .ok true)) :
    w.same v = false := by
  have hafter := get?_materialize h
  obtain ⟨-, hlacks⟩ := materialize_eq_ok_iff.1 h
  cases hheld : v.get? path with
  | none =>
    apply not_same_of_isSome_get?_ne
    rw [hafter, hheld]
    show true ≠ false
    decide
  | some x =>
    rw [hheld, lacks, Bool.and_eq_true, isNull_eq_true_iff] at hlacks
    obtain ⟨rfl, rfl⟩ := hlacks
    rw [hheld] at hafter
    rw [Bool.eq_false_iff]
    intro hsame
    obtain ⟨y, z, hy, hz, hyz⟩ | ⟨hnone, -⟩ := get?_of_same hsame path
    · obtain rfl := Option.some.inj (hafter.symm.trans hy)
      obtain rfl := Option.some.inj (hheld.symm.trans hz)
      exact Bool.noConfusion hyz
    · exact Option.some_ne_none _ (hafter.symm.trans hnone)

theorem made_iff_ne (h : v.materialize path container = (w, .ok made)) : made = true ↔ w ≠ v := by
  cases made with
  | false => exact iff_of_false Bool.false_ne_true fun hne => hne (eq_of_materialize h)
  | true => exact iff_of_true rfl (ne_of_not_same (not_same_of_materialize h))

theorem materialize_again (h : v.materialize path container = (w, .ok made)) :
    w.materialize path container = (w, .ok false) := by
  have hlacks : lacks container (w.get? path) = false := by
    rw [lacks_eq_false_iff, get?_materialize h, opened_opened]
  exact materialize_eq_ok_iff.2
    ⟨store_of_replace? (replace?_get? (lacks_eq_false_iff.1 hlacks)), hlacks⟩

/-- To materialize is all or nothing. It fails if a node above the path is neither a mapping nor
`null`, always for the first such node, and then the value is as it was. If it succeeds it tells
whether the value changed. What was at the path is there still, if it was not `null`; otherwise
there is an empty mapping, or `null` for a leaf. Each node above is a mapping that has at most the
next key in addition, every other path holds what it held, and to do it again changes nothing. -/
theorem materialize_is_all_or_nothing (v : Value) (path : KeyPath) (container : Bool) :
    ((∃ left fault, v.materialize path container = (left, .error fault)) ↔
      ∃ above, above <+: path ∧ above ≠ path ∧ v.Blocks above) ∧
      (∀ left fault, v.materialize path container = (left, .error fault) ↔
        v = left ∧ ∃ above, v.FirstBlock path above ∧
          fault = .notAContainer (Dotted.encode above)) ∧
      ∀ w made, v.materialize path container = (w, .ok made) →
        (made = true ↔ w ≠ v) ∧ (made = true ↔ w.same v = false) ∧
          (w.get? path).isSome = true ∧
          (v.get? path = none ∨ v.get? path = some .null →
            w.get? path = some (if container then .obj [] else .null)) ∧
          (∀ x, v.get? path = some x → x.isNull = false → w.get? path = some x) ∧
          (∀ other, ¬ other <+: path → w.get? other = v.get? other) ∧
          (∀ above key rest, path = above ++ key :: rest →
            ∃ members, w.get? above = some (.obj members) ∧
              ∀ k, k ∈ Members.keys members ↔ k = key ∨ k ∈ v.keysAt above) ∧
          w.materialize path container = (w, .ok false) := by
  refine ⟨?_, fun left fault => ?_, fun w made h => ⟨made_iff_ne h, ?_, ?_, ?_, ?_,
    fun other => get?_materialize_of_not_above h, ?_, materialize_again h⟩⟩
  · simp only [materialize_eq_error_iff, store_eq_error_iff, firstBlock_iff]
    constructor
    · rintro ⟨left, fault, -, above, hblock, -⟩
      exact ⟨above, hblock⟩
    · rintro ⟨above, hblock⟩
      exact ⟨v, _, rfl, above, hblock, rfl⟩
  · rw [materialize_eq_error_iff, store_eq_error_iff]
    rfl
  · rw [made_iff_ne h]
    refine ⟨fun hne => ?_, ne_of_not_same⟩
    obtain rfl := (made_iff_ne h).2 hne
    exact not_same_of_materialize h
  · rw [get?_materialize h]
    rfl
  · rintro (hnone | hnull)
    · rw [get?_materialize h, hnone]
      rfl
    · rw [get?_materialize h, hnull]
      rfl
  · intro x hx hnull
    rw [get?_materialize h, hx, opened_of_not_null container hnull]
  · rintro above key rest rfl
    exact exists_keys_storeFrom (materialize_eq_ok_iff.1 h).1

/-- A `null` on the way makes room for a container, and a text does not. -/
theorem container_is_made_below_null :
    let root : Value := .obj [("a", .null), ("b", .str "x")]
    (∃ w, root.materialize ["a", "c"] true = (w, .ok true) ∧ w ≠ root ∧
        w.get? ["a", "c"] = some (.obj []) ∧ w.get? ["b"] = some (.str "x") ∧
        w.materialize ["a", "c"] true = (w, .ok false)) ∧
      root.materialize ["b", "c", "d"] true = (root, .error (.notAContainer "b")) := by
  intro root
  obtain ⟨-, -, haccepted⟩ := materialize_is_all_or_nothing root ["a", "c"] true
  obtain ⟨-, hrefused, -⟩ := materialize_is_all_or_nothing root ["b", "c", "d"] true
  obtain ⟨hchanged, -, -, hcreated, -, hframe, -, hagain⟩ := haccepted _ _ rfl
  have hblock : root.FirstBlock ["b", "c", "d"] ["b"] :=
    firstBlock_iff.2 ⟨⟨["c", "d"], rfl⟩, by decide, .str "x", rfl, rfl, rfl⟩
  exact ⟨⟨_, rfl, hchanged.1 rfl, hcreated (.inl rfl), hframe ["b"] (by decide), hagain⟩,
    (hrefused _ _).2 ⟨rfl, ["b"], hblock, rfl⟩⟩

end Value

namespace Edit

open Value

variable {root : Value} {path : KeyPath}

/-- A leaf is made as by an empty input. Where there is no node, or `null`, both succeed with the
same root, or both fail for the same node above, whatever the input is for. -/
theorem leaf_is_made_as_by_empty_input (root : Value) (path : KeyPath) (kind : InputKind)
    (hne : path ≠ []) (hheld : root.get? path = none ∨ root.get? path = some .null) :
    (∃ next made, root.materialize path false = (next, .ok made) ∧
      setValue root path "" kind = .ok next) ∨
      ∃ above, root.FirstBlock path above ∧
        root.materialize path false = (root, .error (.notAContainer (Dotted.encode above))) ∧
        setValue root path "" kind = .error (.notAContainer (Dotted.encode above)) := by
  have hopened : opened false (root.get? path) = .null := by
    rcases hheld with hheld | hheld <;> rw [hheld] <;> rfl
  have hinput : setValue root path "" kind = root.store path .null := setValue_of_ne_nil hne
  rw [hinput]
  cases hstore : root.store path .null with
  | ok next =>
    refine .inl ⟨next, _, materialize_eq_ok_iff.2 ⟨?_, rfl⟩, rfl⟩
    rw [hopened, hstore]
  | error fault =>
    obtain ⟨above, hfirst, rfl⟩ := store_eq_error_iff.1 hstore
    refine .inr ⟨above, hfirst, materialize_eq_error_iff.2 ⟨rfl, ?_⟩, rfl⟩
    rw [hopened, hstore]
    rfl

/-- Below `null` a leaf is made by both, and below an array by neither. -/
theorem leaf_below_null_and_array :
    let root : Value := .obj [("a", .null), ("b", .arr [])]
    (root.get? ["a", "c"] = none ∧
      ∃ next made, root.materialize ["a", "c"] false = (next, .ok made) ∧
        setValue root ["a", "c"] "" .integer = .ok next) ∧
      root.get? ["b", "c"] = none ∧
        root.materialize ["b", "c"] false = (root, .error (.notAContainer "b")) ∧
        setValue root ["b", "c"] "" .text = .error (.notAContainer "b") := by
  intro root
  refine ⟨⟨rfl, ?_⟩, rfl, ?_⟩
  · obtain hmade | ⟨above, -, hrefused, -⟩ :=
      leaf_is_made_as_by_empty_input root ["a", "c"] .integer (by decide) (.inl rfl)
    · exact hmade
    · obtain ⟨next, hmade⟩ :
          ∃ next, root.materialize ["a", "c"] false = (next, .ok true) := ⟨_, rfl⟩
      nomatch hmade.symm.trans hrefused
  · have hfault : root.materialize ["b", "c"] false = (root, .error (.notAContainer "b")) := rfl
    obtain ⟨next, made, hmade, -⟩ | ⟨above, -, hrefused, hinput⟩ :=
      leaf_is_made_as_by_empty_input root ["b", "c"] .text (by decide) (.inl rfl)
    · nomatch hfault.symm.trans hmade
    · rw [hfault] at hrefused
      injection (Prod.mk.inj hrefused).2 with hsame
      exact ⟨hfault, hsame ▸ hinput⟩

end Edit

end FormTree
