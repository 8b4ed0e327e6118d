import FormTree.Proofs.Tree.Order

/-!
# Renaming as the move of one subtree

To rename a key moves the node at the key, with all that is below it, and nothing else. In the
mapping above, one entry is put at another key (`Members.rekey`), and as the mapping is ordered it
can be put back (`Members.rekey_rekey`); outside of the mapping nothing is seen of it
(`Value.get?_replace?_of_apart`). A rename is accepted if the key is there and the name is free
(`exists_renameKey_concat_iff`), and there is one order in which it is refused for anything else
(`renameKey_eq_error_iff`).
-/

namespace FormTree

namespace Members

variable {α : Type} {key newKey : String} {members more : List (String × α)} {moved : α}

theorem Ordered.ext (hmembers : Ordered members) (hmore : Ordered more)
    (h : ∀ key, find? key members = find? key more) : members = more := by
  have hentries : members.Perm more := by
    refine (List.perm_ext_iff_of_nodup (hmembers.nodup_keys.of_map _)
      (hmore.nodup_keys.of_map _)).2 fun ⟨key, x⟩ => ?_
    rw [mem_iff_find? hmembers.nodup_keys, mem_iff_find? hmore.nodup_keys, h]
  refine hentries.eq_of_pairwise (fun first second _ _ hlt hgt => ?_)
    (List.pairwise_map.1 hmembers) (List.pairwise_map.1 hmore)
  exact absurd hgt (String.lt_asymm hlt)

theorem mem_keys_remove {other : String} :
    other ∈ keys (remove key members) ↔ other ∈ keys members ∧ other ≠ key := by
  rw [keys_remove, List.mem_filter, decide_eq_true_eq]

/-- The members with an entry at another key. -/
def rekey (key newKey : String) (moved : α) (members : List (String × α)) : List (String × α) :=
  put newKey moved (remove key members)

theorem find?_rekey_self (key newKey : String) (moved : α) (members : List (String × α)) :
    find? newKey (rekey key newKey moved members) = some moved :=
  find?_put_self _ _ _

theorem find?_rekey_old (hne : newKey ≠ key) (moved : α) (members : List (String × α)) :
    find? key (rekey key newKey moved members) = none := by
  rw [rekey, find?_put_of_ne _ _ hne.symm, find?_remove_self]

theorem find?_rekey_of_ne {other : String} (hold : other ≠ key) (hnew : other ≠ newKey) (moved : α)
    (members : List (String × α)) :
    find? other (rekey key newKey moved members) = find? other members := by
  rw [rekey, find?_put_of_ne _ _ hnew, find?_remove_of_ne _ hold]

theorem mem_keys_rekey {other : String} : other ∈ keys (rekey key newKey moved members) ↔
    other = newKey ∨ other ∈ keys members ∧ other ≠ key := by
  rw [rekey, mem_keys_put_iff, mem_keys_remove]

theorem Ordered.rekey (h : Ordered members) : Ordered (rekey key newKey moved members) :=
  (h.remove key).put newKey moved

theorem rekey_rekey (h : Ordered members) (hfind : find? key members = some moved)
    (hfree : find? newKey members = none) :
    rekey newKey key moved (rekey key newKey moved members) = members := by
  have hne : newKey ≠ key := by
    rintro rfl
    exact Option.some_ne_none moved (hfind.symm.trans hfree)
  refine h.rekey.rekey.ext h fun other => ?_
  by_cases hkey : other = key
  · rw [hkey, find?_rekey_self, hfind]
  · by_cases hnew : other = newKey
    · rw [hnew, find?_rekey_old hne.symm, hfree]
    · rw [find?_rekey_of_ne hnew hkey, find?_rekey_of_ne hkey hnew]

end Members

namespace Value

variable {v w x : Value} {path other : KeyPath} {after : List (String × Value)}

/-- The mapping that a node is replaced by is seen at the node, and below it at the keys whose
entries differ. -/
theorem get?_replace?_of_apart (hbefore : v.get? path = some x)
    (hafter : v.replace? path (.obj after) = some w) (habove : ¬ other <+: path)
    (hkeys : ∀ key, path ++ [key] <+: other → Members.find? key after = x.member? key) :
    w.get? other = v.get? other := by
  by_cases hbelow : path <+: other
  · obtain ⟨rest, rfl⟩ := hbelow
    cases rest with
    | nil =>
      rw [List.append_nil] at habove
      exact absurd List.prefix_rfl habove
    | cons key rest =>
      have hkey : Members.find? key after = x.member? key :=
        hkeys key ⟨rest, by rw [List.append_assoc, List.singleton_append]⟩
      rw [get?_replace?_append hafter, get?_append_of_get? hbefore, get?_cons, get?_cons,
        member?_obj, hkey]
  · exact get?_replace?_of_diverging hafter habove hbelow

end Value

namespace Edit

open Value

variable {root next v moved : Value} {path parent : KeyPath} {key newKey : String}
  {members : List (String × Value)} {fault : FieldError}

/-! ### When a rename is refused -/

theorem mappingAt_eq_error : mappingAt root path = .error fault ↔
    root.get? path = none ∧ fault = .nothingAt path ∨
      (∃ v, root.get? path = some v ∧ v.isContainer = false) ∧ fault = .noMappingAt path := by
  rw [mappingAt, node]
  cases root.get? path with
  | none => simp [Except.bind, @eq_comm FieldError]
  | some v => cases v <;> simp [Except.bind, members?, isContainer, @eq_comm FieldError]

theorem renameKey_concat_of_name (hname : newKey ≠ "") :
    renameKey root (parent ++ [key]) newKey = (mappingAt root parent).bind fun members =>
      match Members.find? key members with
      | none => .error (.nothingAt (parent ++ [key]))
      | some moved =>
        if newKey = key then .ok root
        else if Members.has newKey members then .error (.keyCollision newKey)
        else replace root parent (.obj (Members.rekey key newKey moved members)) := by
  rw [renameKey, splitLast_concat, Except.bind]
  exact if_neg hname

theorem renameKey_concat_eq_error (hparent : root.get? parent = some (.obj members))
    (hname : newKey ≠ "") : renameKey root (parent ++ [key]) newKey = .error fault ↔
      key ∉ Members.keys members ∧ fault = .nothingAt (parent ++ [key]) ∨
        key ∈ Members.keys members ∧ newKey ≠ key ∧ newKey ∈ Members.keys members ∧
          fault = .keyCollision newKey := by
  rw [← Members.has_iff_mem_keys, ← Members.has_iff_mem_keys, Members.has]
  cases hfind : Members.find? key members with
  | none =>
    rw [renameKey_concat_of_name hname, mappingAt_eq_ok.2 hparent, Except.bind, hfind]
    simp [@eq_comm FieldError]
  | some moved =>
    rw [renameKey_concat hparent hfind, if_neg hname]
    by_cases hsame : newKey = key
    · simp [hsame]
    · cases hhas : Members.has newKey members with
      | true => simp [hsame, @eq_comm FieldError]
      | false =>
        obtain ⟨next, hnext⟩ := exists_replace? hparent
          (.obj (Members.put newKey moved (Members.remove key members)))
        simp [hsame, replace, hnext]

/-- A rename is refused for its path, or else for its name, or else for the node above, or else for
want of the key, or else for another key of that name. -/
theorem renameKey_eq_error_iff : renameKey root path newKey = .error fault ↔
    path = [] ∧ fault = .notFound "" ∨
      path ≠ [] ∧ newKey = "" ∧ fault = .emptyKey ∨
      ∃ parent key, path = parent ++ [key] ∧ newKey ≠ "" ∧
        (root.get? parent = none ∧ fault = .nothingAt parent ∨
          (∃ v, root.get? parent = some v ∧ v.isContainer = false) ∧ fault = .noMappingAt parent ∨
          ∃ members, root.get? parent = some (.obj members) ∧
            (key ∉ Members.keys members ∧ fault = .nothingAt path ∨
              key ∈ Members.keys members ∧ newKey ≠ key ∧ newKey ∈ Members.keys members ∧
                fault = .keyCollision newKey)) := by
  obtain rfl | ⟨parent, key, rfl⟩ := List.eq_nil_or_concat path
  · simp [renameKey, splitLast, Except.bind, @eq_comm FieldError]
  rw [List.concat_eq_append]
  by_cases hname : newKey = ""
  · simp [renameKey, splitLast_concat, Except.bind, hname, @eq_comm FieldError]
  have hsplit : ∀ above last, parent ++ [key] = above ++ [last] ↔ parent = above ∧ key = last :=
    fun above last => by simp
  simp only [List.concat_ne_nil, hname, hsplit, false_and, and_false, false_or, ne_eq,
    not_false_eq_true, true_and, and_assoc, exists_and_left, exists_eq_left']
  rw [renameKey_concat_of_name hname, except_bind_eq_error, mappingAt_eq_error, or_assoc]
  refine or_congr_right (or_congr_right (exists_congr fun members => ?_))
  rw [mappingAt_eq_ok]
  refine and_congr_right fun hparent => ?_
  rw [← ne_eq, ← renameKey_concat_eq_error hparent hname, renameKey_concat_of_name hname,
    mappingAt_eq_ok.2 hparent]
  rfl

/-! ### What a rename does -/

theorem renameKey_concat_eq_ok (hother : newKey ≠ key) :
    renameKey root (parent ++ [key]) newKey = .ok next ↔
      newKey ≠ "" ∧ ∃ members, root.get? parent = some (.obj members) ∧
        Members.find? newKey members = none ∧ ∃ moved, Members.find? key members = some moved ∧
          root.replace? parent (.obj (Members.rekey key newKey moved members)) = some next := by
  by_cases hname : newKey = ""
  · simp [renameKey, splitLast_concat, Except.bind, hname]
  rw [renameKey_concat_of_name hname, except_bind_eq_ok, ne_eq, and_iff_right hname]
  refine exists_congr fun members => ?_
  rw [mappingAt_eq_ok, ← Members.has_eq_false_iff]
  refine and_congr_right fun _ => ?_
  cases Members.find? key members with
  | none => simp
  | some moved => cases Members.has newKey members <;> simp [hother, replace_eq_ok]

theorem exists_renameKey_concat_iff (hname : newKey ≠ "") (hother : newKey ≠ key) :
    (∃ next, renameKey root (parent ++ [key]) newKey = .ok next) ↔
      ∃ members, root.get? parent = some (.obj members) ∧ key ∈ Members.keys members ∧
        newKey ∉ Members.keys members := by
  simp only [renameKey_concat_eq_ok hother]
  constructor
  · rintro ⟨next, -, members, hparent, hfree, moved, hfind, -⟩
    exact ⟨members, hparent, Members.mem_keys_of_find? hfind, Members.find?_eq_none_iff.1 hfree⟩
  · rintro ⟨members, hparent, hkey, hfree⟩
    obtain ⟨moved, hfind⟩ := Members.exists_find?_of_mem_keys hkey
    obtain ⟨next, hnext⟩ := exists_replace? hparent (.obj (Members.rekey key newKey moved members))
    exact ⟨next, hname, members, hparent, Members.find?_eq_none_iff.2 hfree, moved, hfind, hnext⟩

theorem renameKey_renameKey (hroot : root.Ordered) (hother : newKey ≠ key) (hkey : key ≠ "")
    (h : renameKey root (parent ++ [key]) newKey = .ok next) :
    renameKey next (parent ++ [newKey]) key = .ok root := by
  obtain ⟨-, members, hparent, hfree, moved, hfind, hreplace⟩ := (renameKey_concat_eq_ok hother).1 h
  have hmembers : Members.Ordered members := (ordered_obj_iff.1 (hroot.of_get? hparent)).1
  refine (renameKey_concat_eq_ok hother.symm).2 ⟨hkey, _, get?_replace? hreplace,
    Members.find?_rekey_old hother moved members, moved,
    Members.find?_rekey_self key newKey moved members, ?_⟩
  rw [replace?_replace? hreplace, Members.rekey_rekey hmembers hfind hfree, replace?_get? hparent]

/-- To give a key another name moves the node at the key, with all that is below it, and nothing
else. It is accepted if the key is there and the name is free; a key with a name can have its name
back, and then the root is what it was. A rename is refused for the path of the root, or else for
an empty name, or else because there is no mapping above, or else for want of the key, or else
because another key has the name. -/
theorem rename_moves_one_subtree (root : Value) (parent : KeyPath) (key newKey : String) :
    (newKey ≠ "" → newKey ≠ key → ((∃ next, renameKey root (parent ++ [key]) newKey = .ok next) ↔
      ∃ members, root.get? parent = some (.obj members) ∧ key ∈ Members.keys members ∧
        newKey ∉ Members.keys members)) ∧
      (newKey ≠ key → ∀ next, renameKey root (parent ++ [key]) newKey = .ok next →
        (∀ below, next.get? (parent ++ [newKey] ++ below) = root.get? (parent ++ [key] ++ below)) ∧
          (∃ before after, root.get? parent = some (.obj before) ∧
            next.get? parent = some (.obj after) ∧ key ∉ Members.keys after ∧
              ∀ k, k ∈ Members.keys after ↔ k = newKey ∨ k ∈ Members.keys before ∧ k ≠ key) ∧
          (∀ other, ¬ other <+: parent → ¬ parent ++ [key] <+: other →
            ¬ parent ++ [newKey] <+: other → next.get? other = root.get? other) ∧
          (root.Ordered → next.Ordered ∧
            (key ≠ "" → renameKey next (parent ++ [newKey]) key = .ok root))) ∧
      ∀ path name fault, renameKey root path name = .error fault ↔
        path = [] ∧ fault = .notFound "" ∨
          path ≠ [] ∧ name = "" ∧ fault = .emptyKey ∨
          ∃ above last, path = above ++ [last] ∧ name ≠ "" ∧
            (root.get? above = none ∧ fault = .notFound (Dotted.encode above) ∨
              (∃ v, root.get? above = some v ∧ v.isContainer = false) ∧
                fault = .notAContainer (Dotted.encode above) ∨
              ∃ members, root.get? above = some (.obj members) ∧
                (last ∉ Members.keys members ∧ fault = .notFound (Dotted.encode path) ∨
                  last ∈ Members.keys members ∧ name ≠ last ∧ name ∈ Members.keys members ∧
                    fault = .keyCollision name)) := by
  refine ⟨exists_renameKey_concat_iff, fun hother next hnext => ?_,
    fun path name fault => renameKey_eq_error_iff⟩
  obtain ⟨-, members, hparent, hfree, moved, hfind, hreplace⟩ :=
    (renameKey_concat_eq_ok hother).1 hnext
  have hafter := get?_replace? hreplace
  refine ⟨fun below => ?_, ⟨members, _, hparent, hafter, ?_, fun k => Members.mem_keys_rekey⟩,
    fun other habove hold hnew => ?_,
    fun hroot => ⟨ordered_renameKey hroot hnext, fun hkey =>
      renameKey_renameKey hroot hother hkey hnext⟩⟩
  · have hto : next.get? (parent ++ [newKey]) = some moved :=
      get?_concat_eq_some_iff.2 ⟨_, hafter, Members.find?_rekey_self key newKey moved members⟩
    have hfrom : root.get? (parent ++ [key]) = some moved :=
      get?_concat_eq_some_iff.2 ⟨members, hparent, hfind⟩
    rw [get?_append_of_get? hto, get?_append_of_get? hfrom]
  · exact Members.find?_eq_none_iff.1 (Members.find?_rekey_old hother moved members)
  · refine get?_replace?_of_apart hparent hreplace habove fun k hk => ?_
    refine Members.find?_rekey_of_ne ?_ ?_ moved members
    · rintro rfl
      exact hold hk
    · rintro rfl
      exact hnew hk

/-- A name need not be a word, and the key before it comes back to its place. -/
theorem renamed_mapping_gets_name_back :
    let root : Value := .obj [("a", .null), ("b", .obj [("c", .bool true)])]
    ∃ next, renameKey root ["b"] "." = .ok next ∧
      next.get? [".", "c"] = some (.bool true) ∧ next.get? ["a"] = some .null ∧
      renameKey next ["."] "b" = .ok root := by
  intro root
  have hroot : root.Ordered := ⟨by decide, trivial, ⟨by decide, trivial, trivial⟩, trivial⟩
  obtain ⟨haccepted, hmoves, -⟩ := rename_moves_one_subtree root [] "b" "."
  obtain ⟨next, hnext⟩ :=
    (haccepted (by decide) (by decide)).2 ⟨_, rfl, by decide, by decide⟩
  obtain ⟨hmoved, -, hframe, hback⟩ := hmoves (by decide) next hnext
  exact ⟨next, hnext, hmoved ["c"], hframe ["a"] (by decide) (by decide) (by decide),
    (hback hroot).2 (by decide)⟩

end Edit

end FormTree
