import FormTree.Proofs.Form.Step
import FormTree.Proofs.Path.Dotted

/-!
# Key edits in a session

While a key is being named no schema governs the form, and the edited key is there: that is the
invariant `SlotSound`, which every step keeps. It means that a key edit can always be ended, and
that until it is ended nothing else changes the value.

Giving an added key up restores the value as it was. Giving up the rename of a key does so exactly
if the key has a name: a key that was there before under the empty name is taken for an added one,
and its mapping is replaced by what it holds.
-/

namespace FormTree

/-- The step can end the key edit at `path`: it replaces the whole form, or it is addressed to that
edit. -/
def Step.MayEnd (path : KeyPath) : Step → Prop
  | .renameKey text _ => Dotted.decode text = .ok path
  | .abandonKeyEdit text => Dotted.decode text = .ok path
  | .reset _ _ _ => True
  | _ => False

/-- The step ends a key edit if it is accepted. -/
def Step.endsKeyEdit : Step → Bool
  | .renameKey _ _ | .abandonKeyEdit _ | .reset _ _ _ => true
  | _ => false

namespace Editor

variable {editor : Editor} {step : Step} {outcome : Outcome} {pending : PendingEdit}

/-! ### Parts of the editor that a change of the value leaves alone -/

theorem install_schema (editor : Editor) (root : Value) :
    (editor.install root).1.schema = editor.schema := by
  unfold install
  split <;> rfl

theorem install_value_cases {P : Value → Prop} {root : Value} (hold : P editor.value)
    (hnew : P root) : P (editor.install root).1.value := by
  unfold install
  split
  · exact hold
  · exact hnew

theorem install_value_of_not_same {root : Value} (h : root.same editor.value = false) :
    (editor.install root).1.value = root := by
  rw [install, h]
  rfl

theorem install_value_self (editor : Editor) :
    (editor.install editor.value).1.value = editor.value := by
  unfold install
  split <;> rfl

theorem installPlan_slot (editor : Editor) (plan : Plan) :
    (editor.installPlan plan).1.slot = editor.slot := by
  unfold installPlan
  split
  · exact install_slot editor _
  · rfl

theorem installPlan_schema (editor : Editor) (plan : Plan) :
    (editor.installPlan plan).1.schema = editor.schema := by
  unfold installPlan
  split
  · exact install_schema editor _
  · rfl

theorem drawn_slot (editor : Editor) (mode : Mode) (findings : List Finding) :
    (editor.drawn mode findings).editor.slot = editor.slot :=
  installPlan_slot editor _

theorem rendered_slot (editor : Editor) (mode : Mode) :
    (editor.rendered mode).editor.slot = editor.slot := by
  have hgrown : (editor.grown mode).1.slot = editor.slot := by
    unfold grown
    split
    · exact installPlan_slot editor _
    · rfl
  exact (drawn_slot _ mode _).trans hgrown

theorem edited_value_of_not_same {root : Value} (h : root.same editor.value = false)
    (slot : KeySlot) (answer : Answer) : (editor.edited slot root answer).editor.value = root :=
  install_value_of_not_same h

theorem edited_value_self (editor : Editor) (slot : KeySlot) (answer : Answer) :
    (editor.edited slot editor.value answer).editor.value = editor.value :=
  install_value_self { editor with slot }

theorem edited_slot (editor : Editor) (slot : KeySlot) (root : Value) (answer : Answer) :
    (editor.edited slot root answer).editor.slot = slot :=
  install_slot { editor with slot } root

theorem edited_schema (editor : Editor) (slot : KeySlot) (root : Value) (answer : Answer) :
    (editor.edited slot root answer).editor.schema = editor.schema :=
  install_schema { editor with slot } root

theorem edited_addKey {root : Value} {keys : KeyPath} {answer : Answer}
    (hroot : Edit.addKey editor.value keys = .ok (root, pending)) :
    (editor.edited (.editing pending) root answer).editor.value = root :=
  edited_value_of_not_same
    (Value.not_same_of_isSome_get?_ne (Edit.isSome_get?_ne_of_addKey hroot)) _ _

/-! ### Drawing without a schema -/

theorem materialized_plan (hfree : editor.schema = none) (mode : Mode) (findings : List Finding) :
    (editor.plan mode findings).materialized = none := by
  simp [plan, Plan.make, Plan.Frame.builds, hfree]

theorem drawn_editor (hfree : editor.schema = none) (mode : Mode) (findings : List Finding) :
    (editor.drawn mode findings).editor = editor := by
  simp only [drawn, installPlan, materialized_plan hfree]

theorem rendered_editor (hfree : editor.schema = none) (mode : Mode) :
    (editor.rendered mode).editor = editor := by
  have hgrown : editor.grown mode = (editor, []) := by
    rw [grown, hfree, if_neg (by simp)]
  simp only [rendered, hgrown, drawn_editor hfree]

/-! ### The invariant -/

/-- The editor holds a pending edit that fits it. -/
structure Holds (editor : Editor) (pending : PendingEdit) : Prop where
  slot : editor.slot = .editing pending
  free : editor.schema = none
  path_ne_nil : pending.path ≠ []
  found : (editor.value.get? pending.path).isSome = true

def SlotSound (editor : Editor) : Prop :=
  ∀ pending, editor.slot = .editing pending → editor.Holds pending

theorem slotSound_of_idle (h : editor.slot = .idle) : editor.SlotSound := by
  intro pending hslot
  rw [h] at hslot
  exact absurd hslot (by simp)

/-- An added key is pending, and it fits the editor that adding it leaves. -/
theorem holds_edited_addKey {root : Value} {keys : KeyPath} {answer : Answer}
    (hfree : editor.schema = none) (hroot : Edit.addKey editor.value keys = .ok (root, pending)) :
    (editor.edited (.editing pending) root answer).editor.Holds pending where
  slot := edited_slot editor _ root answer
  free := by rw [edited_schema, hfree]
  path_ne_nil := Edit.path_ne_nil_of_addKey hroot
  found := by rw [edited_addKey hroot, Edit.get?_of_addKey hroot]; rfl

theorem holds_beginRename {keys : KeyPath} {current : Value} (hfree : editor.schema = none)
    (hne : keys ≠ []) (hcurrent : editor.value.get? keys = some current) :
    { editor with slot := .editing ⟨keys, current⟩ }.Holds ⟨keys, current⟩ where
  slot := rfl
  free := hfree
  path_ne_nil := hne
  found := by rw [hcurrent]; rfl

theorem Holds.congr {next : Editor} (h : editor.Holds pending) (hvalue : next.value = editor.value)
    (hschema : next.schema = editor.schema) (hslot : next.slot = editor.slot) :
    next.Holds pending where
  slot := hslot.trans h.slot
  free := hschema.trans h.free
  path_ne_nil := h.path_ne_nil
  found := by rw [hvalue]; exact h.found

theorem slotSound_of_accepts (hsound : editor.SlotSound) (h : Accepts editor step outcome) :
    outcome.editor.SlotSound := by
  cases h with
  | addKey hfree hidle hkeys hroot =>
    intro pending hslot
    rw [edited_slot] at hslot
    obtain rfl := KeySlot.editing.inj hslot
    exact holds_edited_addKey hfree hroot
  | beginRename hfree hidle hkeys hne hcurrent =>
    intro pending hslot
    obtain rfl := KeySlot.editing.inj hslot
    exact holds_beginRename hfree hne hcurrent
  | renameKey hslot hkeys hroot => exact slotSound_of_idle (edited_slot editor .idle _ _)
  | abandonKeyEdit hslot hkeys hroot => exact slotSound_of_idle (edited_slot editor .idle _ _)
  | deleteKey hfree hidle hkeys hroot => exact slotSound_of_idle (edited_slot editor .idle _ _)
  | setValue hidle hkeys hkind hroot => exact slotSound_of_idle (edited_slot editor .idle _ _)
  | render mode =>
    intro pending hslot
    have hholds := hsound pending ((rendered_slot editor mode).symm.trans hslot)
    rw [rendered_editor hholds.free]
    exact hholds
  | renderWith mode findings =>
    intro pending hslot
    have hholds := hsound pending ((drawn_slot editor mode findings).symm.trans hslot)
    rw [drawn_editor hholds.free]
    exact hholds
  | validate => exact hsound
  | validateWith validator => exact hsound
  | reset hschema => exact slotSound_of_idle rfl
  | onChange => exact fun pending hslot => (hsound pending hslot).congr rfl rfl rfl
  | offChange listener => exact fun pending hslot => (hsound pending hslot).congr rfl rfl rfl

theorem slotSound_step (hsound : editor.SlotSound) (step : Step) :
    (editor.step step).editor.SlotSound := by
  obtain ⟨fault, hstep⟩ | haccepts := step_cases editor step
  · rw [hstep]
    exact hsound
  · exact slotSound_of_accepts hsound haccepts

/-- The editors that can come about: made for a value, given settings, driven by steps. -/
inductive Reachable : Editor → Prop
  | new (value : Value) (schema : Option Schema) : Reachable (Editor.new value schema)
  | withSettings {editor next : Editor} {settings : Settings} (h : Reachable editor)
      (hnext : editor.withSettings settings = .ok next) : Reachable next
  | step {editor : Editor} (step : Step) (h : Reachable editor) :
      Reachable (editor.step step).editor

theorem slotSound_of_reachable (h : Reachable editor) : editor.SlotSound := by
  induction h with
  | new value schema => exact slotSound_of_idle rfl
  | withSettings _ hnext ih =>
    obtain ⟨settings, -, rfl⟩ := except_map_eq_ok.1 hnext
    exact fun pending hslot => (ih pending hslot).congr rfl rfl rfl
  | step step _ ih => exact slotSound_step ih step

/-! ### While a key edit is pending -/

/-- Of the steps that are accepted while a key edit is pending, only those that may end it change
the value or the pending edit. -/
theorem Holds.of_accepts (h : editor.Holds pending) (haccepts : Accepts editor step outcome)
    (hopen : ¬ step.MayEnd pending.path) :
    outcome.editor.value = editor.value ∧ outcome.editor.Holds pending := by
  have hbusy : editor.slot ≠ .idle := by
    rw [h.slot]
    exact KeySlot.noConfusion
  cases haccepts with
  | addKey hfree hidle hkeys hroot => exact absurd hidle hbusy
  | beginRename hfree hidle hkeys hne hcurrent => exact absurd hidle hbusy
  | renameKey hslot hkeys hroot =>
    obtain rfl := KeySlot.editing.inj (h.slot.symm.trans hslot)
    exact absurd hkeys hopen
  | abandonKeyEdit hslot hkeys hroot =>
    obtain rfl := KeySlot.editing.inj (h.slot.symm.trans hslot)
    exact absurd hkeys hopen
  | deleteKey hfree hidle hkeys hroot => exact absurd hidle hbusy
  | setValue hidle hkeys hkind hroot => exact absurd hidle hbusy
  | render mode =>
    rw [rendered_editor h.free]
    exact ⟨rfl, h⟩
  | renderWith mode findings =>
    rw [drawn_editor h.free]
    exact ⟨rfl, h⟩
  | validate => exact ⟨rfl, h⟩
  | validateWith validator => exact ⟨rfl, h⟩
  | reset hschema => exact absurd trivial hopen
  | onChange => exact ⟨rfl, h.congr rfl rfl rfl⟩
  | offChange listener => exact ⟨rfl, h.congr rfl rfl rfl⟩

theorem Holds.kept (h : editor.Holds pending) (hopen : ¬ step.MayEnd pending.path) :
    (editor.step step).editor.value = editor.value ∧ (editor.step step).editor.Holds pending := by
  obtain ⟨fault, hstep⟩ | haccepts := step_cases editor step
  · rw [hstep]
    exact ⟨rfl, h⟩
  · exact h.of_accepts haccepts hopen

/-- A run of steps in which no step that would end a key edit is accepted. -/
def LeavesOpen (editor : Editor) : List Step → Prop
  | [] => True
  | step :: rest =>
    (step.endsKeyEdit = true → ¬ (editor.step step).Accepted) ∧
      (editor.step step).editor.LeavesOpen rest

theorem endsKeyEdit_of_mayEnd {path : KeyPath} (h : step.MayEnd path) :
    step.endsKeyEdit = true := by
  cases step <;> first | rfl | exact h.elim

theorem Holds.after {steps : List Step} (h : editor.Holds pending)
    (hopen : editor.LeavesOpen steps) :
    (editor.after steps).value = editor.value ∧ (editor.after steps).Holds pending := by
  induction steps generalizing editor with
  | nil => exact ⟨rfl, h⟩
  | cons step rest ih =>
    obtain ⟨hstep, hrest⟩ := hopen
    have hkeeps : (editor.step step).editor.value = editor.value ∧
        (editor.step step).editor.Holds pending := by
      by_cases hends : step.endsKeyEdit = true
      · rw [editor_of_not_accepted (hstep hends)]
        exact ⟨rfl, h⟩
      · exact h.kept fun hmay => hends (endsKeyEdit_of_mayEnd hmay)
    obtain ⟨hvalue, hholds⟩ := ih hkeeps.2 hrest
    exact ⟨hvalue.trans hkeeps.1, hholds⟩

/-! ### Ending a key edit -/

theorem Holds.accepts_abandonKeyEdit {path : String} (h : editor.Holds pending)
    (hkeys : Dotted.decode path = .ok pending.path) :
    ∃ root, Edit.abandonKeyEdit editor.value pending = .ok root ∧
      editor.step (.abandonKeyEdit path) = editor.edited .idle root .done := by
  obtain ⟨root, hroot⟩ := Edit.exists_abandonKeyEdit h.found
  exact ⟨root, hroot, (accepts_iff.1 (.abandonKeyEdit h.slot hkeys hroot)).1⟩

theorem Holds.accepted_renameKey_iff {path newKey : String} (h : editor.Holds pending)
    (hkeys : Dotted.decode path = .ok pending.path) :
    (editor.step (.renameKey path newKey)).Accepted ↔
      ∃ root, Edit.renameKey editor.value pending.path newKey = .ok root := by
  constructor
  · intro hok
    have haccepts := accepts_iff.2 ⟨rfl, hok⟩
    generalize editor.step (.renameKey path newKey) = outcome at haccepts
    cases haccepts with
    | renameKey hslot _ hroot =>
      obtain rfl := KeySlot.editing.inj (h.slot.symm.trans hslot)
      exact ⟨_, hroot⟩
  · rintro ⟨root, hroot⟩
    have haccepts := accepts_iff.1 (.renameKey h.slot hkeys hroot)
    rw [haccepts.1]
    exact haccepts.2

theorem holds_of_addKey {path : Option String} (hbegin : (editor.step (.addKey path)).Accepted) :
    ∃ keys root pending, Edit.addKey editor.value keys = .ok (root, pending) ∧
      (editor.step (.addKey path)).answer = .ok (.newKey pending.encodedPath) ∧
      (editor.step (.addKey path)).editor.value = root ∧
      (editor.step (.addKey path)).editor.Holds pending := by
  have haccepts := accepts_iff.2 ⟨rfl, hbegin⟩
  generalize editor.step (.addKey path) = outcome at haccepts
  cases haccepts with
  | @addKey _ keys root pending hfree hidle hkeys hroot =>
    exact ⟨keys, root, pending, hroot, rfl, edited_addKey hroot, holds_edited_addKey hfree hroot⟩

theorem holds_of_beginRename {path : String}
    (hbegin : (editor.step (.beginRename path)).Accepted) :
    ∃ keys current, Dotted.decode path = .ok keys ∧ editor.value.get? keys = some current ∧
      (editor.step (.beginRename path)).editor.value = editor.value ∧
      (editor.step (.beginRename path)).editor.Holds ⟨keys, current⟩ := by
  have haccepts := accepts_iff.2 ⟨rfl, hbegin⟩
  generalize editor.step (.beginRename path) = outcome at haccepts
  cases haccepts with
  | @beginRename _ keys current hfree hidle hkeys hne hcurrent =>
    exact ⟨keys, current, hkeys, hcurrent, rfl, holds_beginRename hfree hne hcurrent⟩

/-- A key that was added and then given up, whatever was tried in between, leaves the value that was
there before, be the node it was added at a mapping or not. Giving it up undoes adding it on roots
as well. -/
theorem abandoned_addKey_restores_value :
    (∀ {root next : Value} {path : KeyPath} {pending : PendingEdit},
      Edit.addKey root path = .ok (next, pending) → Edit.abandonKeyEdit next pending = .ok root) ∧
    ∀ {editor : Editor} {path : Option String} {steps : List Step},
      (editor.step (.addKey path)).Accepted →
      (editor.step (.addKey path)).editor.LeavesOpen steps →
      ∃ key, (editor.step (.addKey path)).answer = .ok (.newKey key) ∧
        let last := ((editor.step (.addKey path)).editor.after steps).step (.abandonKeyEdit key)
        last.answer = .ok .done ∧ last.editor.slot = .idle ∧ last.editor.value = editor.value := by
  refine ⟨Edit.abandonKeyEdit_of_addKey, ?_⟩
  intro editor path steps hbegin hopen
  obtain ⟨keys, root, pending, hadd, hanswer, hroot, hholds⟩ := holds_of_addKey hbegin
  refine ⟨pending.encodedPath, hanswer, ?_⟩
  obtain ⟨hvalue, hstill⟩ := hholds.after hopen
  obtain ⟨restored, hrestored, hlast⟩ :=
    hstill.accepts_abandonKeyEdit (Dotted.decode_encode pending.path)
  rw [hvalue, hroot, Edit.abandonKeyEdit_of_addKey hadd, Except.ok.injEq] at hrestored
  subst hrestored
  simp only
  rw [PendingEdit.encodedPath, hlast]
  refine ⟨rfl, edited_slot _ .idle _ _, edited_value_of_not_same ?_ _ _⟩
  rw [hvalue, hroot]
  exact Value.not_same_of_isSome_get?_ne (Edit.isSome_get?_ne_of_addKey hadd).symm

theorem not_accepted_of_error {fault : FieldError} (h : outcome.answer = .error fault) :
    ¬ outcome.Accepted := by
  rintro ⟨answer, hanswer⟩
  rw [h] at hanswer
  exact absurd hanswer (by simp)

/-- A key added in the place of an array, with another edit, a rename and a rendering tried in
between. -/
theorem abandoned_addKey_restores_array :
    let editor := Editor.new (.obj [("a", .arr [.null])]) none
    let begun := editor.step (.addKey (some "a"))
    let steps := [.setValue "a" "x", .renameKey "a../0" "", .render .edit]
    begun.Accepted ∧ begun.editor.LeavesOpen steps ∧
      ∃ key, begun.answer = .ok (.newKey key) ∧
        ((begun.editor.after steps).step (.abandonKeyEdit key)).editor.value = editor.value := by
  intro editor begun steps
  have hbegin : begun.Accepted := ⟨_, rfl⟩
  have hopen : begun.editor.LeavesOpen steps :=
    ⟨nofun, fun _ => not_accepted_of_error rfl, nofun, trivial⟩
  obtain ⟨key, hanswer, -, -, hvalue⟩ := abandoned_addKey_restores_value.2 hbegin hopen
  exact ⟨hbegin, hopen, key, hanswer, hvalue⟩

/-- Giving up the rename of a key, whatever was tried in between, is accepted and frees the slot. It
leaves the value as it was exactly if the key has a name; a key with the empty name goes away with
its mapping, and what it held is put there. -/
theorem abandoned_rename_restores_value_iff {editor : Editor} {path : String} {steps : List Step}
    (hbegin : (editor.step (.beginRename path)).Accepted)
    (hopen : (editor.step (.beginRename path)).editor.LeavesOpen steps) :
    let last := ((editor.step (.beginRename path)).editor.after steps).step (.abandonKeyEdit path)
    last.answer = .ok .done ∧ last.editor.slot = .idle ∧
      ∃ keys, Dotted.decode path = .ok keys ∧
        (last.editor.value = editor.value ↔ keys.getLast? ≠ some "") ∧
        ∀ {parent held}, keys = parent ++ [""] → editor.value.get? keys = some held →
          editor.value.replace? parent held = some last.editor.value := by
  obtain ⟨keys, current, hkeys, hcurrent, hbegun, hholds⟩ := holds_of_beginRename hbegin
  obtain ⟨hvalue, hstill⟩ := hholds.after hopen
  obtain ⟨root, hroot, hlast⟩ := hstill.accepts_abandonKeyEdit hkeys
  have hafter := hvalue.trans hbegun
  rw [hafter] at hroot
  simp only
  rw [hlast]
  refine ⟨rfl, edited_slot _ .idle _ _, keys, hkeys, ?_⟩
  cases hnew : (PendingEdit.mk keys current).isNewKey with
  | false =>
    have hnamed : keys.getLast? ≠ some "" := by simpa [PendingEdit.isNewKey] using hnew
    rw [Edit.abandonKeyEdit_of_not_isNewKey _ hnew, Except.ok.injEq] at hroot
    rw [← hroot, ← hafter, edited_value_self]
    refine ⟨iff_of_true rfl hnamed, fun hparent => ?_⟩
    rw [hparent, List.getLast?_concat] at hnamed
    exact absurd rfl hnamed
  | true =>
    obtain ⟨parent, rfl⟩ := Edit.isNewKey_iff.1 hnew
    rw [Edit.abandonKeyEdit_eq_ok_of_isNewKey hnew, List.dropLast_concat] at hroot
    have hchange : root.same editor.value = false :=
      Value.not_same_of_replace?_member hcurrent hroot
    rw [edited_value_of_not_same (hafter ▸ hchange), List.getLast?_concat]
    refine ⟨iff_of_false (Value.ne_of_not_same hchange) fun h => h rfl, ?_⟩
    intro parent' held hparent hheld
    rw [hcurrent, Option.some.injEq] at hheld
    rw [← List.append_cancel_right hparent, ← hheld, hroot]

/-- A rename of a key with a name, given up after a collision, a rendering and a second edit that
was tried. -/
theorem abandoned_rename_restores_named_key :
    let editor := Editor.new (.obj [("a", .obj [("", .null)]), ("b", .null)]) none
    let begun := editor.step (.beginRename "a")
    let steps := [.renameKey "a" "b", .render .edit, .addKey none]
    begun.Accepted ∧ begun.editor.LeavesOpen steps ∧
      ((begun.editor.after steps).step (.abandonKeyEdit "a")).editor.value = editor.value := by
  intro editor begun steps
  have hbegin : begun.Accepted := ⟨_, rfl⟩
  have hopen : begun.editor.LeavesOpen steps :=
    ⟨fun _ => not_accepted_of_error rfl, nofun, nofun, trivial⟩
  obtain ⟨-, -, keys, hkeys, hiff, -⟩ := abandoned_rename_restores_value_iff hbegin hopen
  obtain rfl : ["a"] = keys := Except.ok.inj hkeys
  exact ⟨hbegin, hopen, hiff.2 (by decide)⟩

/-- A key with the empty name, given up: the value is what the key held. -/
theorem abandoned_rename_of_empty_key_changes_value :
    let editor := Editor.new (.obj [("", .num (.int 1))]) none
    let begun := editor.step (.beginRename "/0")
    let last := begun.editor.step (.abandonKeyEdit "/0")
    begun.answer = .ok .done ∧ last.answer = .ok .done ∧ last.editor.value = .num (.int 1) ∧
      last.editor.value ≠ editor.value :=
  ⟨rfl, rfl, rfl, nofun⟩

/-- While a key is being named, no schema governs the form and the key is there; nothing but a reset
and what is addressed to the edit changes the value or the edit; the edit can always be given up;
and it can be finished with any name but the empty one and those of its siblings. -/
theorem pending_key_edit_can_be_ended {editor : Editor} {pending : PendingEdit}
    (hreach : Reachable editor) (hslot : editor.slot = .editing pending) :
    (editor.schema = none ∧ pending.path ≠ [] ∧ (editor.value.get? pending.path).isSome = true) ∧
      (∀ step : Step, ¬ step.MayEnd pending.path →
        (editor.step step).editor.value = editor.value ∧
          (editor.step step).editor.slot = .editing pending) ∧
      ((editor.step (.abandonKeyEdit (Dotted.encode pending.path))).answer = .ok .done ∧
        (editor.step (.abandonKeyEdit (Dotted.encode pending.path))).editor.slot = .idle) ∧
      ∀ newKey, (editor.step (.renameKey (Dotted.encode pending.path) newKey)).Accepted ↔
        newKey ≠ "" ∧ (pending.path.getLast? = some newKey ∨
          editor.value.get? (pending.path.dropLast ++ [newKey]) = none) := by
  have h := slotSound_of_reachable hreach pending hslot
  have hkeys := Dotted.decode_encode pending.path
  refine ⟨⟨h.free, h.path_ne_nil, h.found⟩, fun step hopen => ?_, ?_, fun newKey => ?_⟩
  · obtain ⟨hvalue, hstill⟩ := h.kept hopen
    exact ⟨hvalue, hstill.slot⟩
  · obtain ⟨root, -, hlast⟩ := h.accepts_abandonKeyEdit hkeys
    rw [hlast]
    exact ⟨rfl, edited_slot editor .idle root _⟩
  · rw [h.accepted_renameKey_iff hkeys]
    obtain ⟨parent, key, hpath⟩ := (List.eq_nil_or_concat pending.path).resolve_left h.path_ne_nil
    rw [List.concat_eq_append] at hpath
    have hfound := h.found
    rw [hpath] at hfound ⊢
    rw [Edit.exists_renameKey_iff hfound, List.getLast?_concat, List.dropLast_concat,
      Option.some.injEq, @eq_comm _ newKey key]

/-- A key that was just added, beside one that has a name. -/
theorem added_key_can_be_ended :
    let root : Value := .obj [("a", .null)]
    let editor := ((Editor.new root none).step (.addKey none)).editor
    editor.slot = .editing ⟨[""], root⟩ ∧
      (editor.step (.abandonKeyEdit (Dotted.encode [""]))).answer = .ok .done ∧
      (editor.step (.renameKey (Dotted.encode [""]) "b")).Accepted ∧
      ¬ (editor.step (.renameKey (Dotted.encode [""]) "a")).Accepted := by
  intro root editor
  have hslot : editor.slot = .editing ⟨[""], root⟩ := rfl
  have hreach : Reachable editor := .step _ (.new root none)
  obtain ⟨-, -, habandon, hrename⟩ := pending_key_edit_can_be_ended hreach hslot
  refine ⟨hslot, habandon.1, (hrename "b").2 ⟨by decide, .inr rfl⟩, fun h => ?_⟩
  obtain ⟨-, hlast | hfree⟩ := (hrename "a").1 h
  · exact absurd hlast (by decide)
  · exact absurd hfree nofun

end Editor

end FormTree
