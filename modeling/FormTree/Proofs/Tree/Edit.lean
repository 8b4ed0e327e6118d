import FormTree.Proofs.Program
import FormTree.Proofs.Value.Lookup
import FormTree.Tree.Edit

/-!
# What the edits of keys do

When adding, renaming and abandoning a key succeed, and with what root. An added key is there
afterwards and was not there before, so adding a key always changes the value; abandoning it puts
the old node back and thereby restores the root exactly.
-/

namespace FormTree

namespace Edit

variable {root next old v : Value} {path parent : KeyPath} {key newKey : String}
  {pending : PendingEdit}

/-! ### Parts -/

theorem node_eq_ok : node root path = .ok v ↔ root.get? path = some v := by
  unfold node
  cases root.get? path <;> simp

theorem replace_eq_ok : replace root path v = .ok next ↔ root.replace? path v = some next := by
  unfold replace
  cases root.replace? path v <;> simp

theorem splitLast_concat (parent : KeyPath) (key : String) :
    splitLast (parent ++ [key]) = .ok (parent, key) := by
  rw [splitLast, List.getLast?_concat, List.dropLast_concat]

theorem splitLast_eq_ok : splitLast path = .ok (parent, key) ↔ path = parent ++ [key] := by
  constructor
  · intro h
    obtain rfl | ⟨above, last, rfl⟩ := List.eq_nil_or_concat path
    · simp [splitLast] at h
    · rw [List.concat_eq_append, splitLast_concat, Except.ok.injEq, Prod.mk.injEq] at h
      rw [List.concat_eq_append, h.1, h.2]
  · rintro rfl
    exact splitLast_concat parent key

theorem mappingAt_eq_ok {members : List (String × Value)} :
    mappingAt root path = .ok members ↔ root.get? path = some (.obj members) := by
  simp only [mappingAt, except_bind_eq_ok, node_eq_ok]
  constructor
  · rintro ⟨v, hv, hmembers⟩
    cases v with
    | obj ms =>
      simp only [Value.members?, Except.ok.injEq] at hmembers
      rw [hv, hmembers]
    | _ => simp [Value.members?] at hmembers
  · exact fun h => ⟨.obj members, h, rfl⟩

theorem find?_membersOf (v : Value) (key : String) :
    Members.find? key (membersOf v) = v.member? key := by
  cases v <;> rfl

/-! ### Adding a key -/

theorem addKey_eq_ok : addKey root path = .ok (next, pending) ↔
    ∃ old, root.get? path = some old ∧ old.member? "" = none ∧
      root.replace? path (.obj (Members.put "" (.str "") (membersOf old))) = some next ∧
      pending = ⟨path ++ [""], old⟩ := by
  simp only [addKey, except_bind_eq_ok, node_eq_ok, ← find?_membersOf]
  constructor
  · rintro ⟨old, hold, hadd⟩
    split at hadd
    · simp at hadd
    · next hfree =>
      obtain ⟨_, hreplace, hpair⟩ := except_map_eq_ok.1 hadd
      obtain ⟨rfl, rfl⟩ := Prod.mk.inj hpair
      exact ⟨old, hold, Members.has_eq_false_iff.1 (by simpa using hfree), replace_eq_ok.1 hreplace,
        rfl⟩
  · rintro ⟨old, hold, hfree, hreplace, rfl⟩
    refine ⟨old, hold, ?_⟩
    rw [if_neg (by simpa using Members.has_eq_false_iff.2 hfree)]
    exact except_map_eq_ok.2 ⟨next, replace_eq_ok.2 hreplace, rfl⟩

theorem addKey_eq_keyCollision {members : List (String × Value)}
    (hold : root.get? path = some (.obj members)) (hempty : "" ∈ Members.keys members) :
    addKey root path = .error (.keyCollision "") := by
  have hhas : Members.has "" (membersOf (.obj members)) = true := Members.has_iff_mem_keys.2 hempty
  rw [addKey, node, hold]
  exact if_pos hhas

theorem get?_of_addKey (h : addKey root path = .ok (next, pending)) :
    next.get? pending.path = some (.str "") := by
  obtain ⟨old, -, -, hreplace, rfl⟩ := addKey_eq_ok.1 h
  rw [Value.get?_replace?_append hreplace, Value.get?_cons, Value.member?, Value.members?,
    Option.bind_some, Members.find?_put_self, Option.bind_some, Value.get?_nil]

theorem get?_before_addKey (h : addKey root path = .ok (next, pending)) :
    root.get? pending.path = none := by
  obtain ⟨old, hold, hfree, -, rfl⟩ := addKey_eq_ok.1 h
  rw [Value.get?_append_of_get? hold, Value.get?_cons, hfree, Option.bind_none]

theorem isSome_get?_ne_of_addKey (h : addKey root path = .ok (next, pending)) :
    (next.get? pending.path).isSome ≠ (root.get? pending.path).isSome := by
  rw [get?_of_addKey h, get?_before_addKey h]
  decide

theorem path_ne_nil_of_addKey (h : addKey root path = .ok (next, pending)) : pending.path ≠ [] := by
  obtain ⟨old, -, -, -, rfl⟩ := addKey_eq_ok.1 h
  exact List.concat_ne_nil "" path

theorem isNewKey_iff : pending.isNewKey = true ↔ ∃ parent, pending.path = parent ++ [""] := by
  rw [PendingEdit.isNewKey, decide_eq_true_eq, List.getLast?_eq_some_iff]

theorem isNewKey_of_addKey (h : addKey root path = .ok (next, pending)) :
    pending.isNewKey = true := by
  obtain ⟨old, -, -, -, rfl⟩ := addKey_eq_ok.1 h
  exact isNewKey_iff.2 ⟨path, rfl⟩

/-! ### Abandoning a key edit -/

theorem abandonKeyEdit_of_not_isNewKey (root : Value) (h : pending.isNewKey = false) :
    abandonKeyEdit root pending = .ok root := by
  rw [abandonKeyEdit, h]
  rfl

theorem abandonKeyEdit_eq_ok_of_isNewKey (h : pending.isNewKey = true) :
    abandonKeyEdit root pending = .ok next ↔
      root.replace? pending.path.dropLast pending.saved = some next := by
  rw [abandonKeyEdit, h, ← replace_eq_ok]
  rfl

theorem exists_abandonKeyEdit (h : (root.get? pending.path).isSome = true) :
    ∃ next, abandonKeyEdit root pending = .ok next := by
  cases hnew : pending.isNewKey with
  | false => exact ⟨root, abandonKeyEdit_of_not_isNewKey root hnew⟩
  | true =>
    obtain ⟨parent, hpath⟩ := isNewKey_iff.1 hnew
    obtain ⟨x, hx⟩ := Option.isSome_iff_exists.1 h
    rw [hpath, Value.get?_concat_eq_some_iff] at hx
    obtain ⟨members, hparent, -⟩ := hx
    obtain ⟨next, hnext⟩ := Value.exists_replace? hparent pending.saved
    refine ⟨next, (abandonKeyEdit_eq_ok_of_isNewKey hnew).2 ?_⟩
    rw [hpath, List.dropLast_concat, hnext]

/-- Giving an added key up restores the root, whatever node the key was added at. -/
theorem abandonKeyEdit_of_addKey (h : addKey root path = .ok (next, pending)) :
    abandonKeyEdit next pending = .ok root := by
  refine (abandonKeyEdit_eq_ok_of_isNewKey (isNewKey_of_addKey h)).2 ?_
  obtain ⟨old, hold, -, hreplace, rfl⟩ := addKey_eq_ok.1 h
  rw [List.dropLast_concat, Value.replace?_replace? hreplace, Value.replace?_get? hold]

/-! ### Renaming -/

theorem renameKey_concat {members : List (String × Value)} {moved : Value}
    (hparent : root.get? parent = some (.obj members))
    (hfind : Members.find? key members = some moved) (newKey : String) :
    renameKey root (parent ++ [key]) newKey =
      if newKey = "" then .error .emptyKey
      else if newKey = key then .ok root
      else if Members.has newKey members then .error (.keyCollision newKey)
      else replace root parent (.obj (Members.put newKey moved (Members.remove key members))) := by
  have hmapping : mappingAt root parent = .ok members := mappingAt_eq_ok.2 hparent
  simp only [renameKey, splitLast_concat, hmapping, Except.bind, hfind]

/-- A rename that is accepted gives a key a name that is not empty: its own, or another one. -/
theorem renameKey_cases (h : renameKey root path newKey = .ok next) :
    ∃ parent key members moved, path = parent ++ [key] ∧
      root.get? parent = some (.obj members) ∧ Members.find? key members = some moved ∧
      newKey ≠ "" ∧ (newKey = key ∧ next = root ∨
        root.replace? parent (.obj (Members.put newKey moved (Members.remove key members))) =
          some next) := by
  simp only [renameKey, except_bind_eq_ok, Prod.exists, splitLast_eq_ok] at h
  obtain ⟨parent, key, rfl, h⟩ := h
  split at h
  · exact absurd h (by simp)
  · next hname =>
    obtain ⟨members, hparent, h⟩ := except_bind_eq_ok.1 h
    rw [mappingAt_eq_ok] at hparent
    split at h
    · exact absurd h (by simp)
    · next moved hfind =>
      refine ⟨parent, key, members, moved, rfl, hparent, hfind, hname, ?_⟩
      split at h
      · next hsame => exact .inl ⟨hsame, (Except.ok.inj h).symm⟩
      · split at h
        · exact absurd h (by simp)
        · exact .inr (replace_eq_ok.1 h)

theorem exists_renameKey_iff (hfound : (root.get? (parent ++ [key])).isSome = true) :
    (∃ next, renameKey root (parent ++ [key]) newKey = .ok next) ↔
      newKey ≠ "" ∧ (newKey = key ∨ root.get? (parent ++ [newKey]) = none) := by
  obtain ⟨moved, hmoved⟩ := Option.isSome_iff_exists.1 hfound
  obtain ⟨members, hparent, hfind⟩ := Value.get?_concat_eq_some_iff.1 hmoved
  have hsibling : root.get? (parent ++ [newKey]) = Members.find? newKey members := by
    rw [Value.get?_append_of_get? hparent, Value.get?_cons, Value.member?, Value.members?,
      Option.bind_some]
    cases Members.find? newKey members <;> rfl
  rw [hsibling, ← Members.has_eq_false_iff, renameKey_concat hparent hfind]
  by_cases hempty : newKey = ""
  · simp [hempty]
  · rw [if_neg hempty]
    by_cases hsame : newKey = key
    · simp [hsame, hsame ▸ hempty]
    · rw [if_neg hsame]
      cases hhas : Members.has newKey members with
      | true => simp [hsame]
      | false =>
        obtain ⟨next, hnext⟩ := Value.exists_replace? hparent
          (.obj (Members.put newKey moved (Members.remove key members)))
        simp only [Bool.false_eq_true, if_false, replace_eq_ok, hnext, Option.some.injEq,
          exists_eq', ne_eq, hempty, not_false_eq_true, or_true, and_self]

/-! ### Deleting -/

theorem deleteKey_eq_ok : deleteKey root path = .ok next ↔
    ∃ parent key members, path = parent ++ [key] ∧ root.get? parent = some (.obj members) ∧
      Members.has key members = true ∧
      root.replace? parent (.obj (Members.remove key members)) = some next := by
  simp only [deleteKey, except_bind_eq_ok, Prod.exists, splitLast_eq_ok, mappingAt_eq_ok]
  constructor
  · rintro ⟨parent, key, hpath, members, hparent, hdelete⟩
    split at hdelete
    · next hhas => exact ⟨parent, key, members, hpath, hparent, hhas, replace_eq_ok.1 hdelete⟩
    · exact absurd hdelete (by simp)
  · rintro ⟨parent, key, members, hpath, hparent, hhas, hreplace⟩
    refine ⟨parent, key, hpath, members, hparent, ?_⟩
    rw [if_pos hhas]
    exact replace_eq_ok.2 hreplace

theorem exists_deleteKey (hne : path ≠ []) (hfound : root.get? path = some v) :
    ∃ next, deleteKey root path = .ok next := by
  obtain ⟨parent, key, rfl⟩ := (List.eq_nil_or_concat path).resolve_left hne
  rw [List.concat_eq_append] at hfound ⊢
  obtain ⟨members, hparent, hfind⟩ := Value.get?_concat_eq_some_iff.1 hfound
  obtain ⟨next, hnext⟩ :=
    Value.exists_replace? hparent (.obj (Members.remove key members))
  exact ⟨next, deleteKey_eq_ok.2
    ⟨parent, key, members, rfl, hparent, Members.has_eq_true_iff.2 ⟨v, hfind⟩, hnext⟩⟩

end Edit

end FormTree
