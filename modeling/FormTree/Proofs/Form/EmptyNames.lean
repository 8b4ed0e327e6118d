import FormTree.Proofs.Form.Change
import FormTree.Proofs.Form.Rows
import FormTree.Proofs.Tree.Order
import Mathlib.Data.List.Induction

/-!
# Keys with the empty name

Adding a key puts an empty name into the value until the key is given a name, and giving it a name
or giving it up takes the empty name out again. No other edit of keys makes one, so in a value whose
keys all have names the one empty name is that of the key being added.

Inputs are the exception. They are stored at the path that they are for, and a path may have empty
names in it. So the sessions in which empty names stay with added keys are those whose inputs are
for paths without them (`empty_names_are_pending_iff`).
-/

namespace FormTree

open Value

namespace Value

variable {v w new x : Value} {path done rest exempt : KeyPath} {key : String}
  {members : List (String × Value)}

/-- No key in the value has the empty name. -/
def Named (v : Value) : Prop := ∀ path, (v.get? path).isSome = true → "" ∉ path

/-- The empty name is found only at a path and below it. -/
def NamedBut (v : Value) (exempt : KeyPath) : Prop :=
  ∀ path, (v.get? path).isSome = true → "" ∈ path → exempt <+: path

theorem Named.of_get? (h : v.Named) (hx : v.get? path = some x) : x.Named := by
  intro below hbelow hempty
  refine h (path ++ below) ?_ (List.mem_append_right path hempty)
  rwa [get?_append_of_get? hx]

theorem named_of_not_container (h : v.isContainer = false) : v.Named := by
  intro path hpath
  obtain rfl | ⟨above, key, rfl⟩ := List.eq_nil_or_concat path
  · exact List.not_mem_nil
  · rw [List.concat_eq_append] at hpath
    obtain ⟨x, hx⟩ := Option.isSome_iff_exists.1 hpath
    rw [isContainer_of_get?_concat hx] at h
    exact absurd h (by decide)

theorem named_obj_iff : (Value.obj members).Named ↔
    ∀ key x, Members.find? key members = some x → key ≠ "" ∧ x.Named := by
  have hcons : ∀ key below, (Value.obj members).get? (key :: below) =
      (Members.find? key members).bind (·.get? below) := fun _ _ => rfl
  constructor
  · intro h key x hx
    refine ⟨?_, fun below hbelow hempty => ?_⟩
    · rintro rfl
      refine h [""] ?_ List.mem_cons_self
      rw [hcons, hx]
      rfl
    · refine h (key :: below) ?_ (List.mem_cons_of_mem key hempty)
      rwa [hcons, hx]
  · intro h path hpath
    cases path with
    | nil => exact List.not_mem_nil
    | cons key below =>
      rw [hcons] at hpath
      obtain ⟨x, hx⟩ := Option.isSome_iff_exists.1 (Option.isSome_of_isSome_bind hpath)
      obtain ⟨hkey, hbelow⟩ := h key x hx
      rw [hx] at hpath
      rw [List.mem_cons, not_or]
      exact ⟨hkey.symm, hbelow below hpath⟩

theorem get?_storeFrom_cases (h : storeFrom done v path new = .ok w) (other : KeyPath) :
    (∃ below, other = path ++ below ∧ w.get? other = new.get? below) ∨ other <+: path ∨
      w.get? other = v.get? other := by
  by_cases hbelow : path <+: other
  · obtain ⟨below, rfl⟩ := hbelow
    exact .inl ⟨below, rfl, get?_storeFrom_append h below⟩
  · by_cases habove : other <+: path
    · exact .inr (.inl habove)
    · exact .inr (.inr (get?_storeFrom_of_apart h habove hbelow))

theorem Named.store (hv : v.Named) (hpath : "" ∉ path) (hnew : new.Named)
    (h : v.store path new = .ok w) : w.Named := by
  intro other hother hempty
  rcases get?_storeFrom_cases h other with ⟨below, rfl, hsame⟩ | habove | hsame
  · rw [hsame] at hother
    rcases List.mem_append.1 hempty with hupper | hlower
    · exact hpath hupper
    · exact hnew below hother hlower
  · exact hpath (habove.mem hempty)
  · rw [hsame] at hother
    exact hv other hother hempty

theorem Named.replace? (hv : v.Named) (hnew : new.Named) (h : v.replace? path new = some w) :
    w.Named := by
  have hpath : (v.get? path).isSome = true := by
    rw [← isSome_replace? v path new, h]
    rfl
  exact hv.store (hv path hpath) hnew (store_of_replace? h)

theorem Named.remove (h : (Value.obj members).Named) (key : String) :
    (Value.obj (Members.remove key members)).Named := by
  refine named_obj_iff.2 fun other x hx => ?_
  by_cases hother : other = key
  · rw [hother, Members.find?_remove_self] at hx
    exact absurd hx.symm (Option.some_ne_none x)
  · rw [Members.find?_remove_of_ne members hother] at hx
    exact named_obj_iff.1 h other x hx

theorem Named.put (h : (Value.obj members).Named) (hx : x.Named) (hkey : key ≠ "") :
    (Value.obj (Members.put key x members)).Named := by
  refine named_obj_iff.2 fun other y hy => ?_
  by_cases hother : other = key
  · rw [hother, Members.find?_put_self, Option.some.injEq] at hy
    exact ⟨hother ▸ hkey, hy ▸ hx⟩
  · rw [Members.find?_put_of_ne x members hother] at hy
    exact named_obj_iff.1 h other y hy

end Value

namespace Edit

variable {root next v : Value} {path : KeyPath} {key newKey : String} {pending : PendingEdit}

theorem named_membersOf (h : v.Named) : (Value.obj (membersOf v)).Named := by
  refine named_obj_iff.2 fun key x hx => ?_
  rw [find?_membersOf] at hx
  obtain ⟨members, rfl, hfind⟩ := member?_eq_some_iff.1 hx
  exact named_obj_iff.1 h key x hfind

/-- What an added key leaves without a name is its own place. -/
theorem namedBut_of_addKey (hroot : root.Named) (h : addKey root path = .ok (next, pending)) :
    next.NamedBut pending.path := by
  obtain ⟨old, hold, -, hreplace, rfl⟩ := addKey_eq_ok.1 h
  have hpath : "" ∉ path := hroot path (by rw [hold]; rfl)
  intro other hother hempty
  rcases get?_storeFrom_cases (store_of_replace? hreplace) other with
    ⟨below, rfl, hsame⟩ | habove | hsame
  · have hbelow : "" ∈ below := (List.mem_append.1 hempty).resolve_left hpath
    cases below with
    | nil => exact absurd hbelow List.not_mem_nil
    | cons first rest =>
      rw [List.prefix_append_right_inj, List.cons_prefix_cons]
      by_cases hfirst : first = ""
      · exact ⟨hfirst.symm, List.nil_prefix⟩
      · have hbefore : ((Value.obj (membersOf old)).get? (first :: rest)).isSome = true := by
          rwa [hsame, get?_cons, member?_obj, Members.find?_put_of_ne _ _ hfirst, ← member?_obj,
            ← get?_cons] at hother
        exact absurd hbelow (named_membersOf (hroot.of_get? hold) _ hbefore)
  · exact absurd (habove.mem hempty) hpath
  · rw [hsame] at hother
    exact absurd hempty (hroot other hother)

theorem named_renameKey (hroot : root.Named) (h : renameKey root path newKey = .ok next) :
    next.Named := by
  obtain ⟨parent, key, members, moved, rfl, hparent, hfind, hname, ⟨-, rfl⟩ | hreplace⟩ :=
    renameKey_cases h
  · exact hroot
  · have hmembers : (Value.obj members).Named := hroot.of_get? hparent
    obtain ⟨-, hmoved⟩ := named_obj_iff.1 hmembers key moved hfind
    exact hroot.replace? ((hmembers.remove key).put hmoved hname) hreplace

theorem named_renameKey_of_addKey (hroot : root.Named)
    (hadd : addKey root path = .ok (v, pending))
    (h : renameKey v pending.path newKey = .ok next) : next.Named := by
  obtain ⟨old, hold, -, hadded, rfl⟩ := addKey_eq_ok.1 hadd
  obtain ⟨parent, key, members, moved, hpath, hparent, hfind, hname, hnext⟩ := renameKey_cases h
  obtain ⟨rfl, rfl⟩ := List.append_singleton_inj.1 hpath
  rw [get?_replace? hadded, Option.some.injEq, Value.obj.injEq] at hparent
  subst hparent
  have hreplace := hnext.resolve_left fun hsame => hname hsame.1
  rw [replace?_replace? hadded] at hreplace
  rw [Members.find?_put_self, Option.some.injEq] at hfind
  subst hfind
  have hleft : (Value.obj
      (Members.remove "" (Members.put "" (.str "") (membersOf old)))).Named := by
    refine named_obj_iff.2 fun other x hx => ?_
    by_cases hother : other = ""
    · rw [hother, Members.find?_remove_self] at hx
      exact absurd hx.symm (Option.some_ne_none x)
    · rw [Members.find?_remove_of_ne _ hother, Members.find?_put_of_ne _ _ hother] at hx
      exact named_obj_iff.1 (named_membersOf (hroot.of_get? hold)) other x hx
  exact hroot.replace? (hleft.put (named_of_not_container rfl) hname) hreplace

theorem named_deleteKey (hroot : root.Named) (h : deleteKey root path = .ok next) :
    next.Named := by
  obtain ⟨parent, key, members, rfl, hparent, -, hreplace⟩ := deleteKey_eq_ok.1 h
  exact hroot.replace? ((hroot.of_get? hparent).remove key) hreplace

theorem named_setValue {raw : String} {kind : InputKind} (hroot : root.Named) (hpath : "" ∉ path)
    (h : setValue root path raw kind = .ok next) : next.Named := by
  obtain ⟨-, new, hnew, hstore⟩ := setValue_eq_ok.1 h
  exact hroot.store hpath (named_of_not_container (isContainer_of_coerce hnew)) hstore

end Edit

namespace Editor

variable {editor : Editor} {run steps : List Step} {step : Step} {outcome : Outcome}
  {pending : PendingEdit}

/-! ### One step -/

/-- The pending edit was opened in the run by adding a key, and has been pending since. -/
def OpenedByAdd (editor : Editor) (run : List Step) (pending : PendingEdit) : Prop :=
  ∃ before path later, run = before ++ .addKey path :: later ∧
    ((editor.after before).step (.addKey path)).Accepted ∧
    ∀ between, between <+: later →
      (editor.after (before ++ .addKey path :: between)).slot = .editing pending

/-- After the run, the empty name is found only at or below the place of an added key that has not
been given a name yet. -/
def NamesButPending (editor : Editor) (run : List Step) : Prop :=
  ∀ path, ((editor.after run).value.get? path).isSome = true → "" ∈ path →
    ∃ pending, (editor.after run).slot = .editing pending ∧ editor.OpenedByAdd run pending ∧
      pending.path <+: path

/-- All keys have names, or all but a key that was added to such a value and is pending. Of the
pending edits, `added` are those that were opened by adding a key. -/
structure Tidy (added : PendingEdit → Prop) (editor : Editor) : Prop where
  free : editor.schema = none
  idle : editor.slot = .idle → editor.value.Named
  editing : ∀ pending, editor.slot = .editing pending →
    editor.value.Named ∧ pending.isNewKey = false ∨
      added pending ∧ ∃ root keys, root.Named ∧
        Edit.addKey root keys = .ok (editor.value, pending)

variable {added : PendingEdit → Prop} {root next : Value} {keys : KeyPath}

theorem tidy_of_idle (hfree : editor.schema = none) (hidle : editor.slot = .idle)
    (hnamed : editor.value.Named) : Tidy added editor where
  free := hfree
  idle := fun _ => hnamed
  editing := by
    intro pending hslot
    rw [hidle] at hslot
    exact KeySlot.noConfusion hslot

theorem Tidy.mono {others : PendingEdit → Prop} (h : Tidy added editor)
    (hadded : ∀ pending, editor.slot = .editing pending → added pending → others pending) :
    Tidy others editor where
  free := h.free
  idle := h.idle
  editing := fun pending hslot => (h.editing pending hslot).imp_right fun hopened =>
    ⟨hadded pending hslot hopened.1, hopened.2⟩

/-- The pending edit is the one that was opened before by adding a key, or adding a key is the
step. -/
def Carries (added : PendingEdit → Prop) (editor : Editor) (step : Step) (pending : PendingEdit) :
    Prop :=
  editor.slot = .editing pending ∧ added pending ∨ ∃ path, step = .addKey path

theorem Tidy.keep {after : Editor} (h : Tidy added editor) (step : Step)
    (hvalue : after.value = editor.value) (hschema : after.schema = editor.schema)
    (hslot : after.slot = editor.slot) : Tidy (Carries added editor step) after where
  free := hschema.trans h.free
  idle := fun hidle => hvalue ▸ h.idle (hslot.symm.trans hidle)
  editing := by
    intro pending hpending
    rw [hslot] at hpending
    rw [hvalue]
    exact (h.editing pending hpending).imp_right fun hopened =>
      ⟨.inl ⟨hpending, hopened.1⟩, hopened.2⟩

theorem edited_of_addKey (hadd : Edit.addKey root keys = .ok (editor.value, pending))
    (hnext : next.Named) (slot : KeySlot) (answer : Answer) :
    (editor.edited slot next answer).editor.value = next := by
  have hempty : "" ∈ pending.path := by
    obtain ⟨parent, hpath⟩ := Edit.isNewKey_iff.1 (Edit.isNewKey_of_addKey hadd)
    rw [hpath]
    exact List.mem_append_right parent List.mem_cons_self
  have habsent : (next.get? pending.path).isSome = false :=
    Bool.eq_false_iff.2 fun hpath => hnext _ hpath hempty
  have hdiffer : (next.get? pending.path).isSome ≠ (editor.value.get? pending.path).isSome := by
    rw [Edit.get?_of_addKey hadd, habsent]
    decide
  exact edited_value_of_not_same (not_same_of_isSome_get?_ne hdiffer) slot answer

theorem Tidy.ends (h : Tidy added editor) (hslot : editor.slot = .editing pending)
    (hkept : editor.value.Named → pending.isNewKey = false → next.Named)
    (hnamed : ∀ root keys, root.Named → Edit.addKey root keys = .ok (editor.value, pending) →
      next.Named) : Tidy (Carries added editor step) (editor.edited .idle next .done).editor := by
  refine tidy_of_idle ((edited_schema editor _ _ _).trans h.free) (edited_slot editor _ _ _) ?_
  obtain ⟨hvalue, hold⟩ | ⟨-, root, keys, hroot, hadd⟩ := h.editing pending hslot
  · exact install_value_cases hvalue (hkept hvalue hold)
  · rw [edited_of_addKey hadd (hnamed root keys hroot hadd)]
    exact hnamed root keys hroot hadd

theorem tidy_of_accepts (h : Tidy added editor) (haccepts : Accepts editor step outcome)
    (hinput : ∀ path raw keys, step = .setValue path raw → Dotted.decode path = .ok keys →
      "" ∉ keys)
    (hreset : ∀ value slot build schema, step = .reset value slot build →
      Schema.ofSlotBy build slot = .ok schema → schema = none ∧ value.Named) :
    Tidy (Carries added editor step) outcome.editor := by
  cases haccepts with
  | @addKey path keys root pending hfree hidle hkeys hroot =>
    refine ⟨(edited_schema editor _ _ _).trans hfree, fun hslot => ?_, fun other hslot => ?_⟩
    · rw [edited_slot] at hslot
      exact KeySlot.noConfusion hslot
    · rw [edited_slot] at hslot
      obtain rfl := KeySlot.editing.inj hslot
      rw [edited_addKey hroot]
      exact .inr ⟨.inr ⟨path, rfl⟩, editor.value, keys, h.idle hidle, hroot⟩
  | @beginRename path keys current hfree hidle hkeys hne hcurrent =>
    have hnamed := h.idle hidle
    refine ⟨hfree, fun _ => hnamed, fun other hslot => .inl ⟨hnamed, ?_⟩⟩
    obtain rfl := KeySlot.editing.inj hslot
    rw [Bool.eq_false_iff]
    intro hnew
    obtain ⟨parent, rfl⟩ := Edit.isNewKey_iff.1 hnew
    have hfound : (editor.value.get? (parent ++ [""])).isSome = true := by
      rw [hcurrent]
      rfl
    exact hnamed _ hfound (List.mem_append_right parent List.mem_cons_self)
  | renameKey hslot hkeys hroot =>
    exact h.ends hslot (fun hvalue _ => Edit.named_renameKey hvalue hroot)
      fun _ _ hold hadd => Edit.named_renameKey_of_addKey hold hadd hroot
  | abandonKeyEdit hslot hkeys hroot =>
    refine h.ends hslot (fun hvalue hold => ?_) fun _ _ hold hadd => ?_
    · rw [Edit.abandonKeyEdit_of_not_isNewKey _ hold, Except.ok.injEq] at hroot
      exact hroot ▸ hvalue
    · rw [Edit.abandonKeyEdit_of_addKey hadd, Except.ok.injEq] at hroot
      exact hroot ▸ hold
  | deleteKey hfree hidle hkeys hroot =>
    have hnamed := h.idle hidle
    exact tidy_of_idle ((edited_schema editor _ _ _).trans hfree) (edited_slot editor _ _ _)
      (install_value_cases hnamed (Edit.named_deleteKey hnamed hroot))
  | setValue hidle hkeys hkind hroot =>
    have hnamed := h.idle hidle
    have hpath := hinput _ _ _ rfl hkeys
    exact tidy_of_idle ((edited_schema editor _ _ _).trans h.free) (edited_slot editor _ _ _)
      (install_value_cases hnamed (Edit.named_setValue hnamed hpath hroot))
  | render mode =>
    rw [rendered_editor h.free]
    exact h.keep _ rfl rfl rfl
  | renderWith mode findings =>
    rw [drawn_editor h.free]
    exact h.keep _ rfl rfl rfl
  | validate => exact h.keep _ rfl rfl rfl
  | validateWith validator => exact h.keep _ rfl rfl rfl
  | reset hschema =>
    obtain ⟨rfl, hnamed⟩ := hreset _ _ _ _ rfl hschema
    exact tidy_of_idle rfl rfl hnamed
  | onChange => exact h.keep _ rfl rfl rfl
  | offChange listener => exact h.keep _ rfl rfl rfl

/-! ### A run of steps -/

theorem after_concat (editor : Editor) (run : List Step) (step : Step) :
    editor.after (run ++ [step]) = ((editor.after run).step step).editor := by
  rw [after_append]
  rfl

theorem OpenedByAdd.concat (h : editor.OpenedByAdd run pending)
    (hslot : (editor.after (run ++ [step])).slot = .editing pending) :
    editor.OpenedByAdd (run ++ [step]) pending := by
  obtain ⟨before, path, later, rfl, haccepted, hkept⟩ := h
  have hrun : before ++ .addKey path :: later ++ [step] =
      before ++ .addKey path :: (later ++ [step]) := by simp
  refine ⟨before, path, later ++ [step], hrun, haccepted, fun between hbetween => ?_⟩
  rcases List.prefix_concat_iff.1 hbetween with rfl | hbetween
  · rw [← hrun]
    exact hslot
  · exact hkept between hbetween

theorem openedByAdd_of_carries
    (h : Carries (editor.OpenedByAdd run) (editor.after run) step pending)
    (haccepted : ((editor.after run).step step).Accepted)
    (hslot : (editor.after (run ++ [step])).slot = .editing pending) :
    editor.OpenedByAdd (run ++ [step]) pending := by
  obtain ⟨-, hopened⟩ | ⟨path, rfl⟩ := h
  · exact hopened.concat hslot
  · refine ⟨run, path, [], rfl, haccepted, fun between hbetween => ?_⟩
    rw [List.prefix_nil.1 hbetween]
    exact hslot

/-- The editor stays tidy from one step to the next, as long as inputs are for paths without the
empty name and the values of resets have none. -/
theorem tidy_after (hstart : Tidy (editor.OpenedByAdd []) editor)
    (hinputs : ∀ run path raw keys, run ++ [.setValue path raw] <+: steps →
      ((editor.after run).step (.setValue path raw)).Accepted → Dotted.decode path = .ok keys →
        "" ∉ keys)
    (hresets : ∀ value slot build, Step.reset value slot build ∈ steps → ∀ schema,
      Schema.ofSlotBy build slot = .ok schema → schema = none ∧ value.Named) :
    Tidy (editor.OpenedByAdd steps) (editor.after steps) := by
  -- From the end, as `OpenedByAdd` is about all of the run up to the state
  induction steps using List.reverseRecOn with
  | nil => exact hstart
  | append_singleton run step ih =>
    have htidy : Tidy (editor.OpenedByAdd run) (editor.after run) :=
      ih (fun other path raw keys hother => hinputs other path raw keys
          (hother.trans (List.prefix_append run [step])))
        fun value slot build hmem =>
          hresets value slot build (List.mem_append_left [step] hmem)
    obtain ⟨fault, hrefused⟩ | haccepts := step_cases (editor.after run) step
    · have hafter : editor.after (run ++ [step]) = editor.after run := by
        rw [after_concat, hrefused]
      rw [hafter]
      exact htidy.mono fun pending hslot hopened => hopened.concat (hafter ▸ hslot)
    · have haccepted := (accepts_iff.1 haccepts).2
      have hnext := tidy_of_accepts htidy haccepts
        (fun path raw keys hstep hkeys => by
          subst hstep
          exact hinputs run path raw keys List.prefix_rfl haccepted hkeys)
        fun value slot build schema hstep => hresets value slot build
          (List.mem_append_right run (hstep ▸ List.mem_cons_self)) schema
      rw [← after_concat] at hnext
      exact hnext.mono fun pending hslot hcarries =>
        openedByAdd_of_carries hcarries haccepted hslot

theorem Tidy.namesButPending (h : Tidy (editor.OpenedByAdd run) (editor.after run)) :
    editor.NamesButPending run := by
  intro path hpath hempty
  cases hslot : (editor.after run).slot with
  | idle => exact absurd hempty (h.idle hslot path hpath)
  | editing pending =>
    obtain ⟨hnamed, -⟩ | ⟨hopened, root, keys, hroot, hadd⟩ := h.editing pending hslot
    · exact absurd hempty (hnamed path hpath)
    · exact ⟨pending, rfl, hopened, Edit.namedBut_of_addKey hroot hadd path hpath hempty⟩

theorem found_of_setValue {path raw : String}
    (haccepted : (editor.step (.setValue path raw)).Accepted)
    (hkeys : Dotted.decode path = .ok keys) :
    (editor.step (.setValue path raw)).editor.slot = .idle ∧
      ((editor.step (.setValue path raw)).editor.value.get? keys).isSome = true := by
  have haccepts := accepts_iff.2 ⟨rfl, haccepted⟩
  generalize editor.step (.setValue path raw) = outcome at haccepts
  cases haccepts with
  | @setValue _ _ decoded kind root hidle hdecoded hkind hroot =>
    obtain rfl : keys = decoded := Except.ok.inj (hkeys.symm.trans hdecoded)
    obtain ⟨-, new, -, hstore⟩ := Edit.setValue_eq_ok.1 hroot
    obtain ⟨held, hheld, -⟩ := exists_get?_edited editor .idle .done (get?_storeFrom hstore)
    refine ⟨edited_slot editor _ _ _, ?_⟩
    rw [hheld]
    rfl

/-- In a session without a schema whose values are given with names for all keys, the empty name is
always that of an added key which is pending, and is gone when the editor is idle, if and only if
no input is accepted at a path with the empty name in it. -/
theorem empty_names_are_pending_iff (hfree : editor.schema = none) (hidle : editor.slot = .idle)
    (hnamed : editor.value.Named)
    (hresets : ∀ value slot build, Step.reset value slot build ∈ steps → ∀ schema,
      Schema.ofSlotBy build slot = .ok schema → schema = none ∧ value.Named) :
    (∀ run, run <+: steps → editor.NamesButPending run ∧
        ((editor.after run).slot = .idle → (editor.after run).value.Named)) ↔
      ∀ run path raw keys, run ++ [.setValue path raw] <+: steps →
        ((editor.after run).step (.setValue path raw)).Accepted →
          Dotted.decode path = .ok keys → "" ∉ keys := by
  constructor
  · intro h run path raw keys hrun haccepted hkeys hempty
    obtain ⟨hslot, hfound⟩ := found_of_setValue haccepted hkeys
    obtain ⟨-, hidle⟩ := h _ hrun
    rw [after_concat] at hidle
    exact hidle hslot keys hfound hempty
  · intro h run hrun
    have htidy : Tidy (editor.OpenedByAdd run) (editor.after run) :=
      tidy_after (tidy_of_idle hfree hidle hnamed)
      (fun other path raw keys hother => h other path raw keys (hother.trans hrun))
      fun value slot build hmem => hresets value slot build (hrun.mem hmem)
    exact ⟨htidy.namesButPending, htidy.idle⟩

/-- A key is added, then given a name, and an input is for it. -/
theorem added_key_gets_name :
    let editor := Editor.new (.obj [("a", .null)]) none
    let steps := [.addKey (some "a"), .render .edit, .renameKey "a../0" "b", .setValue "a..b" "x"]
    editor.value.Named ∧
      ((editor.after [.addKey (some "a")]).value.get? ["a", ""]).isSome = true ∧
      editor.NamesButPending [.addKey (some "a")] ∧
      (editor.after steps).value.get? ["a", "b"] = some (.str "x") ∧
      (editor.after steps).value.Named := by
  intro editor steps
  have hnamed : editor.value.Named := by
    refine named_obj_iff.2 fun key x hx => ?_
    obtain ⟨rfl, rfl⟩ : key = "a" ∧ x = .null := by simpa using Members.mem_of_find? hx
    exact ⟨by decide, named_of_not_container rfl⟩
  have hresets : ∀ value slot build, Step.reset value slot build ∈ steps → ∀ schema,
      Schema.ofSlotBy build slot = .ok schema → schema = none ∧ value.Named :=
    fun value slot build hmem => absurd hmem (by simp [steps])
  have hwhole := (empty_names_are_pending_iff rfl rfl hnamed hresets).2 fun run path raw keys
      hrun _ hkeys => by
    have hmem : Step.setValue path raw ∈ steps :=
      hrun.mem (List.mem_append_right run List.mem_cons_self)
    obtain ⟨rfl, rfl⟩ : path = "a..b" ∧ raw = "x" := by simpa [steps] using hmem
    obtain rfl : ["a", "b"] = keys := Except.ok.inj hkeys
    decide
  have hfirst : [.addKey (some "a")] <+: steps := List.prefix_append [_] _
  exact ⟨hnamed, rfl, (hwhole _ hfirst).1, rfl, (hwhole _ List.prefix_rfl).2 rfl⟩

/-- An input for the empty name puts it into an empty value, and nothing is pending. -/
theorem input_makes_empty_name :
    let editor := Editor.new (.obj []) none
    let outcome := editor.step (.setValue "/0" "x")
    editor.value.Named ∧ outcome.answer = .ok .done ∧
      outcome.editor.value = .obj [("", .str "x")] ∧ outcome.editor.slot = .idle ∧
      ¬ outcome.editor.value.Named ∧ ¬ editor.NamesButPending [.setValue "/0" "x"] := by
  intro editor outcome
  have hnamed : editor.value.Named :=
    named_obj_iff.2 fun _ x hx => absurd hx (Option.some_ne_none x).symm
  refine ⟨hnamed, rfl, rfl, rfl, fun h => ?_, fun h => ?_⟩
  · exact h [""] rfl List.mem_cons_self
  · obtain ⟨pending, hslot, -⟩ := h [""] rfl List.mem_cons_self
    exact KeySlot.noConfusion hslot

end Editor

end FormTree
