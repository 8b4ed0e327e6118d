import FormTree.Proofs.Tree.KeySlot
import FormTree.Proofs.Tree.Renaming

/-!
# A key that is added and then named

A new key goes in as a placeholder with an empty name, and has its name later. The placeholder is
moved to the name, so in the mapping nothing is left of it (`Members.rekey_put`), and the two steps
come to one entry that is put at the name (`renameKey_of_addKey`). A node that is no mapping becomes
an empty one for that. To delete the key takes the entry out again and leaves the mapping that it
was put into (`deleteKey_of_put`).
-/

namespace FormTree

namespace Members

variable {α : Type} {key newKey : String} {members : List (String × α)}

theorem remove_eq_self (h : has key members = false) : remove key members = members := by
  induction members with
  | nil => rfl
  | cons entry rest ih =>
    obtain ⟨hne, hrest⟩ := has_cons_eq_false_iff.1 h
    rw [remove, if_neg hne, ih hrest]

theorem remove_put (new : α) (h : has key members = false) :
    remove key (put key new members) = members := by
  rw [put, h]
  show remove key (enter key new members) = members
  induction members with
  | nil => simp only [enter, remove, if_true]
  | cons entry rest ih =>
    obtain ⟨hne, hrest⟩ := has_cons_eq_false_iff.1 h
    rw [enter]
    split
    · rw [remove, if_pos rfl, remove_eq_self h]
    · rw [remove, if_neg hne, ih hrest]

/-- An entry that is put at one key and moved to another is put at the other. -/
theorem rekey_put (new : α) (h : has key members = false) :
    rekey key newKey new (put key new members) = put newKey new members := by
  rw [rekey, remove_put new h]

end Members

namespace Edit

open Value

variable {root old placed next before : Value} {path : KeyPath} {key : String} {new : Value}
  {members : List (String × Value)} {pending : PendingEdit}

theorem exists_addKey (hold : root.get? path = some old) (hfree : old.member? "" = none) :
    ∃ placed, addKey root path = .ok (placed, ⟨path ++ [""], old⟩) := by
  obtain ⟨placed, hplaced⟩ :=
    exists_replace? hold (.obj (Members.put "" (.str "") (membersOf old)))
  exact ⟨placed, addKey_eq_ok.2 ⟨old, hold, hfree, hplaced, rfl⟩⟩

/-- To name an added key is to put it at the name in the first place. -/
theorem renameKey_of_addKey (hold : root.get? path = some old)
    (hadd : addKey root path = .ok (placed, pending)) :
    renameKey placed (path ++ [""]) key = .ok next ↔
      (key ≠ "" ∧ old.member? key = none) ∧
        root.replace? path (.obj (Members.put key (.str "") (membersOf old))) = some next := by
  obtain ⟨_, hsaved, hfree, hreplace, -⟩ := addKey_eq_ok.1 hadd
  obtain rfl := Option.some.inj (hold.symm.trans hsaved)
  have hempty : Members.has "" (membersOf old) = false := by
    rw [Members.has_eq_false_iff, find?_membersOf, hfree]
  have hplaced := get?_replace? hreplace
  by_cases hname : key = ""
  · simp [renameKey, splitLast_concat, Except.bind, hname]
  · rw [renameKey_concat_eq_ok hname, and_iff_right hname, and_iff_right hname, hplaced]
    simp only [Option.some.injEq, obj.injEq, exists_eq_left', Members.find?_put_self,
      Members.find?_put_of_ne _ _ hname, Members.rekey_put _ hempty, find?_membersOf,
      replace?_replace? hreplace]

theorem deleteKey_of_put (hfree : Members.has key members = false)
    (hput : root.replace? path (.obj (Members.put key new members)) = some next) :
    deleteKey next (path ++ [key]) = .ok before ↔
      root.replace? path (.obj members) = some before := by
  have hmapping : mappingAt next path = .ok (Members.put key new members) :=
    mappingAt_eq_ok.2 (get?_replace? hput)
  have hthere : Members.has key (Members.put key new members) = true :=
    Members.has_eq_true_iff.2 ⟨new, Members.find?_put_self _ _ _⟩
  simp only [deleteKey, splitLast_concat, hmapping, Except.bind, hthere, if_true, replace_eq_ok,
    Members.remove_put new hfree, replace?_replace? hput]

end Edit

namespace KeySlot

open Value Edit

variable {slot left : KeySlot} {root next : Value} {path : KeyPath} {key : String}

theorem beginAdd_eq_ok_iff : slot.beginAdd root path = .ok (left, next) ↔
    slot = .idle ∧ ∃ pending, addKey root path = .ok (next, pending) ∧ left = .editing pending :=
  Program.success_eq_ok_iff.trans Call.beginAdd_eq_ok

theorem commitRename_eq_ok_iff : slot.commitRename root path key = .ok (left, next) ↔
    (∃ pending, slot = .editing pending ∧ pending.path = path) ∧
      renameKey root path key = .ok next ∧ left = .idle :=
  Program.success_eq_ok_iff.trans Call.commitRename_eq_ok

/-- To add a key and to name it is to insert the key. At a node that is no mapping with an empty key
the edit begins, and it can be finished with a name that is not empty and that no key of the node
has. Then an empty text is at that name in the mapping that the node is, or in one that takes the
place of the node, and the rest of the root is as it was. To delete the key leaves the mapping, and
so the whole root if the node was a mapping. -/
theorem added_key_is_inserted (root old : Value) (path : KeyPath) (key : String)
    (hold : root.get? path = some old) (hfree : old.member? "" = none) :
    ∃ slot placed, idle.beginAdd root path = .ok (slot, placed) ∧
      ((∃ left next, slot.commitRename placed (path ++ [""]) key = .ok (left, next)) ↔
        key ≠ "" ∧ old.member? key = none) ∧
      ∀ left next, slot.commitRename placed (path ++ [""]) key = .ok (left, next) →
        left = .idle ∧
          root.replace? path (.obj (Members.put key (.str "") (membersOf old))) = some next ∧
          (∀ other, ¬ other <+: path → ¬ path ++ [key] <+: other →
            next.get? other = root.get? other) ∧
          ∃ before, deleteKey next (path ++ [key]) = .ok before ∧
            root.replace? path (.obj (membersOf old)) = some before ∧
            (old.isContainer = true → before = root) := by
  obtain ⟨placed, hadd⟩ := exists_addKey hold hfree
  have hcommit : ∀ left next,
      (KeySlot.editing ⟨path ++ [""], old⟩).commitRename placed (path ++ [""]) key =
          .ok (left, next) ↔
        ((key ≠ "" ∧ old.member? key = none) ∧
          root.replace? path (.obj (Members.put key (.str "") (membersOf old))) = some next) ∧
          left = .idle := by
    intro left next
    rw [commitRename_eq_ok_iff, renameKey_of_addKey hold hadd]
    exact and_iff_right ⟨_, rfl, rfl⟩
  refine ⟨.editing ⟨path ++ [""], old⟩, placed, beginAdd_eq_ok_iff.2 ⟨rfl, _, hadd, rfl⟩, ?_, ?_⟩
  · simp only [hcommit]
    constructor
    · rintro ⟨left, next, ⟨hname, -⟩, -⟩
      exact hname
    · intro hname
      obtain ⟨next, hnext⟩ :=
        exists_replace? hold (.obj (Members.put key (.str "") (membersOf old)))
      exact ⟨.idle, next, ⟨hname, hnext⟩, rfl⟩
  · intro left next h
    obtain ⟨⟨⟨-, hnew⟩, hput⟩, hleft⟩ := (hcommit left next).1 h
    have hhas : Members.has key (membersOf old) = false := by
      rw [Members.has_eq_false_iff, find?_membersOf, hnew]
    obtain ⟨before, hbefore⟩ := exists_replace? hold (.obj (membersOf old))
    refine ⟨hleft, hput, fun other habove hkey => ?_, before,
      (deleteKey_of_put hhas hput).2 hbefore, hbefore, fun hcontainer => ?_⟩
    · refine get?_replace?_of_apart hold hput habove fun k hk => ?_
      have hne : k ≠ key := by
        rintro rfl
        exact hkey hk
      rw [Members.find?_put_of_ne _ _ hne, find?_membersOf]
    · obtain ⟨members, rfl⟩ := isContainer_eq_true_iff.1 hcontainer
      exact Option.some.inj (hbefore.symm.trans (replace?_get? hold))

/-- A text makes way for the mapping of its first key, and an empty mapping is left of it. -/
theorem key_is_inserted_at_text :
    let root : Value := .obj [("a", .str "x"), ("b", .bool true)]
    root.get? ["a"] = some (.str "x") ∧ (Value.str "x").member? "" = none ∧
      ∃ slot placed, idle.beginAdd root ["a"] = .ok (slot, placed) ∧
        ∃ next, slot.commitRename placed ["a", ""] "c" = .ok (.idle, next) ∧
          next.get? ["a", "c"] = some (.str "") ∧ next.get? ["b"] = some (.bool true) ∧
          ∃ before, deleteKey next ["a", "c"] = .ok before ∧
            before.get? ["a"] = some (.obj []) := by
  intro root
  obtain ⟨slot, placed, hbegin, hname, hcommit⟩ :=
    added_key_is_inserted root (.str "x") ["a"] "c" rfl rfl
  obtain ⟨left, next, hnext⟩ := hname.2 ⟨by decide, rfl⟩
  obtain ⟨rfl, hput, hframe, before, hdelete, hbefore, -⟩ := hcommit left next hnext
  refine ⟨rfl, rfl, slot, placed, hbegin, next, hnext, ?_, hframe ["b"] (by decide) (by decide),
    before, hdelete, get?_replace? hbefore⟩
  exact get?_concat_eq_some_iff.2 ⟨_, get?_replace? hput, Members.find?_put_self _ _ _⟩

end KeySlot

end FormTree
