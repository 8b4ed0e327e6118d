import FormTree.Proofs.Schema.Node
import FormTree.Proofs.Tree.Store

/-!
# Edits keep a value in order

To store something is the one way in which an edit changes a value: a replacement at a path that is
there is a store (`store_of_replace?`). So it is enough that a store keeps every mapping in order,
and that the mappings which edits put in place of others are in order themselves.
-/

namespace FormTree

namespace Value

variable {v w x new : Value} {key : String} {path done : KeyPath}
  {members : List (String × Value)}

theorem ordered_obj_iff : (Value.obj members).Ordered ↔
    Members.Ordered members ∧ ∀ entry ∈ members, entry.2.Ordered := by
  rw [Ordered, orderedMembers_iff]

theorem Ordered.put (h : (Value.obj members).Ordered) (hx : x.Ordered) (key : String) :
    (Value.obj (Members.put key x members)).Ordered := by
  obtain ⟨hkeys, hentries⟩ := ordered_obj_iff.1 h
  refine ordered_obj_iff.2 ⟨hkeys.put key x, fun entry hentry => ?_⟩
  rcases Members.mem_put hentry with hnew | hold
  · rw [hnew]
    exact hx
  · exact hentries entry hold

theorem Ordered.remove (h : (Value.obj members).Ordered) (key : String) :
    (Value.obj (Members.remove key members)).Ordered := by
  obtain ⟨hkeys, hentries⟩ := ordered_obj_iff.1 h
  refine ordered_obj_iff.2 ⟨hkeys.remove key, fun entry hentry => ?_⟩
  obtain ⟨name, held⟩ := entry
  have hnodup : (Members.keys (Members.remove key members)).Nodup := (hkeys.remove key).nodup_keys
  have hfind := Members.find?_of_mem hnodup hentry
  by_cases hname : name = key
  · rw [hname, Members.find?_remove_self] at hfind
    exact absurd hfind.symm (Option.some_ne_none held)
  · rw [Members.find?_remove_of_ne members hname] at hfind
    exact hentries _ (Members.mem_of_find? hfind)

theorem ordered_empty : (Value.obj []).Ordered :=
  ordered_obj_iff.2 ⟨List.Pairwise.nil, fun _ hentry => absurd hentry List.not_mem_nil⟩

theorem ordered_opened {held : Option Value} (container : Bool)
    (h : ∀ v, held = some v → v.Ordered) : (opened container held).Ordered := by
  cases held with
  | none =>
    cases container with
    | true => exact ordered_empty
    | false => trivial
  | some v =>
    rw [opened_some]
    split
    · exact ordered_empty
    · exact h v rfl

theorem Ordered.storeFrom (hv : v.Ordered) (hnew : new.Ordered)
    (h : storeFrom done v path new = .ok w) : w.Ordered := by
  induction path generalizing done v w with
  | nil =>
    rw [Value.storeFrom, Except.ok.injEq] at h
    exact h ▸ hnew
  | cons key rest ih =>
    obtain ⟨members, child, hopened, hchild, rfl⟩ := storeFrom_cons_eq_ok.1 h
    have hmembers : (Value.obj members).Ordered := by
      rw [← hopened]
      exact ordered_opened true fun x hx => Option.some.inj hx ▸ hv
    have hbelow : ((Members.find? key members).getD (.obj [])).Ordered := by
      cases hfind : Members.find? key members with
      | none => exact ordered_empty
      | some x => exact hmembers.of_member? hfind
    exact hmembers.put (ih hbelow hchild) key

/-! ### Replacements as stores -/

/-- To store below a node that is there is to replace the node. -/
theorem storeFrom_append_of_get? {y : Value} {below : KeyPath} (hnode : v.get? path = some x)
    (hbelow : Value.storeFrom (done ++ path) x below new = .ok y)
    (h : v.replace? path y = some w) : Value.storeFrom done v (path ++ below) new = .ok w := by
  induction path generalizing done v w with
  | nil =>
    obtain rfl := Option.some.inj hnode
    obtain rfl := Option.some.inj h
    rwa [List.append_nil] at hbelow
  | cons key rest ih =>
    obtain ⟨child, grown, hchild, hgrown, rfl⟩ := replace?_cons_eq_some.1 h
    rw [get?_cons, hchild, Option.bind_some] at hnode
    rw [← List.singleton_append, ← List.append_assoc] at hbelow
    obtain ⟨members, rfl, hfind⟩ := member?_eq_some_iff.1 hchild
    refine storeFrom_cons_eq_ok.2 ⟨members, grown, rfl, ?_, ?_⟩
    · rw [hfind]
      exact ih hnode hbelow hgrown
    · rw [withMember, Members.put, if_pos (Members.has_eq_true_iff.2 ⟨child, hfind⟩)]

theorem store_of_replace? (h : v.replace? path new = some w) : v.store path new = .ok w := by
  have hthere : (v.get? path).isSome = true := by
    rw [← isSome_replace? v path new, h]
    rfl
  obtain ⟨x, hx⟩ := Option.isSome_iff_exists.1 hthere
  have hstore : v.store (path ++ []) new = .ok w := storeFrom_append_of_get? hx rfl h
  rwa [List.append_nil] at hstore

theorem Ordered.replace? (hv : v.Ordered) (hnew : new.Ordered)
    (h : v.replace? path new = some w) : w.Ordered :=
  hv.storeFrom hnew (store_of_replace? h)

end Value

theorem ordered_of_coerce {raw : String} {kind : InputKind} {new : Value}
    (h : coerce raw kind = .ok new) : new.Ordered := by
  obtain ⟨-, rfl⟩ | ⟨-, ⟨text, rfl⟩ | ⟨n, rfl⟩⟩ := coerce_cases h
  · trivial
  · trivial
  · trivial

/-! ### The edits -/

namespace Edit

open Value

variable {root next v : Value} {path : KeyPath} {newKey raw : String} {kind : InputKind}
  {pending : PendingEdit}

theorem ordered_membersOf (h : v.Ordered) : (Value.obj (membersOf v)).Ordered := by
  cases v with
  | obj members => exact h
  | _ => exact ordered_empty

theorem ordered_addKey (hroot : root.Ordered) (h : addKey root path = .ok (next, pending)) :
    next.Ordered ∧ pending.saved.Ordered := by
  obtain ⟨old, hold, -, hreplace, rfl⟩ := addKey_eq_ok.1 h
  have hsaved : old.Ordered := hroot.of_get? hold
  have hempty : (Value.str "").Ordered := trivial
  exact ⟨hroot.replace? ((ordered_membersOf hsaved).put hempty "") hreplace, hsaved⟩

theorem ordered_renameKey (hroot : root.Ordered) (h : renameKey root path newKey = .ok next) :
    next.Ordered := by
  obtain ⟨parent, key, members, moved, rfl, hparent, hfind, -, ⟨-, rfl⟩ | hreplace⟩ :=
    renameKey_cases h
  · exact hroot
  · have hmembers : (Value.obj members).Ordered := hroot.of_get? hparent
    have hmoved : moved.Ordered := hmembers.of_member? hfind
    exact hroot.replace? ((hmembers.remove key).put hmoved newKey) hreplace

theorem ordered_abandonKeyEdit (hroot : root.Ordered) (hsaved : pending.saved.Ordered)
    (h : abandonKeyEdit root pending = .ok next) : next.Ordered := by
  cases hnew : pending.isNewKey with
  | false =>
    rw [abandonKeyEdit_of_not_isNewKey root hnew, Except.ok.injEq] at h
    exact h ▸ hroot
  | true => exact hroot.replace? hsaved ((abandonKeyEdit_eq_ok_of_isNewKey hnew).1 h)

theorem ordered_deleteKey (hroot : root.Ordered) (h : deleteKey root path = .ok next) :
    next.Ordered := by
  obtain ⟨parent, key, members, rfl, hparent, -, hreplace⟩ := deleteKey_eq_ok.1 h
  have hmembers : (Value.obj members).Ordered := hroot.of_get? hparent
  exact hroot.replace? (hmembers.remove key) hreplace

theorem ordered_setValue (hroot : root.Ordered) (h : setValue root path raw kind = .ok next) :
    next.Ordered := by
  obtain ⟨-, new, hnew, hstore⟩ := setValue_eq_ok.1 h
  exact hroot.storeFrom (ordered_of_coerce hnew) hstore

end Edit

end FormTree
