import FormTree.Proofs.Form.Materialized
import FormTree.Proofs.Form.Shape

/-!
# Sessions under a schema

Under a schema new nodes come from two places: a plan for editing opens the nodes of its rows, and
an input is stored at a declared path, with what is missing on the way. Either way the paths that
are new are declared (`Schema.Extends`), and so are those that a whole session adds.

The names of keys do not change at all under a schema. No key edit can begin, so none is pending,
and every step that would edit a key is refused.
-/

namespace FormTree

open Value

/-- The step is an edit of keys, not of what they hold. -/
def Step.editsKeys : Step → Bool
  | .addKey _ | .beginRename _ | .renameKey _ _ | .abandonKeyEdit _ | .deleteKey _ => true
  | _ => false

namespace Schema

variable {schema : Schema} {v w x new : Value} {path above : KeyPath}

/-- The schema has a node for the path. -/
def Declares (schema : Schema) (path : KeyPath) : Prop :=
  ∃ node, schema.nodeAt (structuralPath path) = .ok node

theorem declares_iff :
    schema.Declares path ↔ (SchemaNode.descend? schema.root path).isSome = true := by
  rw [Option.isSome_iff_exists]
  exact exists_congr fun node => nodeFrom_structuralPath_eq_ok

theorem Declares.of_prefix (h : schema.Declares path) (habove : above <+: path) :
    schema.Declares above := by
  obtain ⟨below, rfl⟩ := habove
  rw [declares_iff, SchemaNode.descend?_append] at h
  rw [declares_iff]
  exact Option.isSome_of_isSome_bind h

/-- Every path of `w` is one of `v`, or declared. -/
def Extends (schema : Schema) (v w : Value) : Prop :=
  ∀ path, (w.get? path).isSome = true → (v.get? path).isSome = true ∨ schema.Declares path

theorem Extends.refl (schema : Schema) (v : Value) : schema.Extends v v :=
  fun _ h => .inl h

theorem Extends.trans (hvw : schema.Extends v w) (hwx : schema.Extends w x) :
    schema.Extends v x := by
  intro path hpath
  rcases hwx path hpath with hold | hdeclared
  · exact hvw path hold
  · exact .inr hdeclared

/-- What filling adds stands at a site, and sites are declared. -/
theorem extends_fill (hschema : schema.root.Ordered) (v : Value) :
    schema.Extends v (schema.fill v) := by
  intro path hpath
  rcases Plan.get?_fill_cases hschema v path with
    rfl | ⟨site, hsite, rfl, -, -⟩ | ⟨-, -, hsame⟩
  · exact .inl rfl
  · obtain ⟨node, hnode, -⟩ := Outline.exists_node_of_mem hschema hsite
    have hdeclared : (SchemaNode.descend? schema.root site.path).isSome = true := by
      rw [hnode]
      rfl
    exact .inr (declares_iff.2 hdeclared)
  · rw [hsame] at hpath
    exact .inl hpath

/-- What storing adds stands at the path or above it, as nothing typed has members. -/
theorem extends_store (hstore : v.store path new = .ok w) (hdeclared : schema.Declares path)
    (hleaf : new.isContainer = false) : schema.Extends v w := by
  intro other hother
  by_cases hbelow : path <+: other
  · obtain ⟨below, rfl⟩ := hbelow
    rw [get?_storeFrom_append hstore] at hother
    obtain rfl | ⟨between, key, rfl⟩ := List.eq_nil_or_concat below
    · rw [List.append_nil]
      exact .inr hdeclared
    · rw [List.concat_eq_append] at hother
      obtain ⟨child, hchild⟩ := Option.isSome_iff_exists.1 hother
      have hcontainer : new.isContainer = true := isContainer_of_get?_concat hchild
      rw [hleaf] at hcontainer
      exact absurd hcontainer (by decide)
  · by_cases habove : other <+: path
    · exact .inr (hdeclared.of_prefix habove)
    · rw [get?_storeFrom_of_apart hstore habove hbelow] at hother
      exact .inl hother

end Schema

namespace Editor

variable {editor : Editor} {step : Step} {outcome : Outcome} {schema : Schema} {start : Value}

/-! ### What one step adds -/

theorem extends_installPlan (hordered : schema.root.Ordered) (hschema : editor.schema = some schema)
    (mode : Mode) (findings : List Finding) :
    schema.Extends editor.value (editor.installPlan (editor.plan mode findings)).1.value := by
  cases mode with
  | read =>
    have hnot : ¬ (Mode.read = .edit ∧ editor.schema.isSome) := fun h => Mode.noConfusion h.1
    rw [installPlan_of_not_grows hnot]
    exact .refl schema editor.value
  | edit =>
    rw [installPlan_edit hschema]
    have hfilled := Schema.extends_fill hordered editor.value
    exact install_value_cases (.refl schema editor.value) hfilled

/-- The editor is governed by the schema, no key edit is pending, and what the value has beyond
`start` is declared. -/
structure Governed (schema : Schema) (start : Value) (editor : Editor) : Prop where
  schema_eq : editor.schema = some schema
  idle : editor.slot = .idle
  within : schema.Extends start editor.value

theorem governed_of_reachable (h : Reachable editor) (hschema : editor.schema = some schema) :
    Governed schema editor.value editor where
  schema_eq := hschema
  idle := by
    cases hslot : editor.slot with
    | idle => rfl
    | editing pending =>
      have hfree : editor.schema = none := (slotSound_of_reachable h pending hslot).free
      rw [hschema] at hfree
      exact absurd hfree (Option.some_ne_none schema)
  within := .refl schema editor.value

theorem Governed.not_free (h : Governed schema start editor) : editor.schema ≠ none := by
  rw [h.schema_eq]
  exact Option.some_ne_none schema

theorem Governed.not_editing (h : Governed schema start editor) (pending : PendingEdit) :
    editor.slot ≠ .editing pending := by
  rw [h.idle]
  exact KeySlot.noConfusion

theorem Governed.extend {next : Editor} (h : Governed schema start editor)
    (hschema : next.schema = editor.schema) (hslot : next.slot = .idle)
    (hvalue : schema.Extends editor.value next.value) : Governed schema start next where
  schema_eq := hschema.trans h.schema_eq
  idle := hslot
  within := h.within.trans hvalue

theorem Governed.installPlan (h : Governed schema start editor) (hordered : schema.root.Ordered)
    (mode : Mode) (findings : List Finding) :
    Governed schema start (editor.installPlan (editor.plan mode findings)).1 := by
  have hslot := installPlan_slot editor (editor.plan mode findings)
  exact h.extend (installPlan_schema editor _) (hslot.trans h.idle)
    (extends_installPlan hordered h.schema_eq mode findings)

theorem governed_of_accepts (h : Governed schema start editor) (hordered : schema.root.Ordered)
    (haccepts : Accepts editor step outcome) (hreset : step.isReset = false) :
    Governed schema start outcome.editor := by
  cases haccepts with
  | addKey hfree hidle hkeys hroot => exact absurd hfree h.not_free
  | beginRename hfree hidle hkeys hne hcurrent => exact absurd hfree h.not_free
  | renameKey hslot hkeys hroot => exact absurd hslot (h.not_editing _)
  | abandonKeyEdit hslot hkeys hroot => exact absurd hslot (h.not_editing _)
  | deleteKey hfree hidle hkeys hroot => exact absurd hfree h.not_free
  | setValue hidle hkeys hkind hroot =>
    obtain ⟨-, new, hnew, hstore⟩ := Edit.setValue_eq_ok.1 hroot
    have hdeclared := Schema.declares_iff.2 (isSome_descend?_of_kindAt h.schema_eq hkind)
    have hextends := Schema.extends_store hstore hdeclared (isContainer_of_coerce hnew)
    exact h.extend (edited_schema editor _ _ _) (edited_slot editor _ _ _)
      (install_value_cases (.refl schema editor.value) hextends)
  | render mode =>
    rw [(rendered_eq editor mode).1, grown]
    split
    · exact h.installPlan hordered mode []
    · exact h
  | renderWith mode findings => exact h.installPlan hordered mode findings
  | validate => exact h
  | validateWith validator => exact h
  | reset hschema => exact absurd hreset (by simp [Step.isReset])
  | onChange => exact h.extend rfl h.idle (.refl schema editor.value)
  | offChange listener => exact h.extend rfl h.idle (.refl schema editor.value)

theorem Governed.refuses (h : Governed schema start editor) (hkeys : step.editsKeys = true) :
    ∃ fault, editor.step step = ⟨editor, .error fault, []⟩ := by
  obtain hrefused | haccepts := step_cases editor step
  · exact hrefused
  · generalize editor.step step = outcome at haccepts
    cases haccepts with
    | addKey hfree hidle hkeys hroot => exact absurd hfree h.not_free
    | beginRename hfree hidle hkeys hne hcurrent => exact absurd hfree h.not_free
    | renameKey hslot hkeys hroot => exact absurd hslot (h.not_editing _)
    | abandonKeyEdit hslot hkeys hroot => exact absurd hslot (h.not_editing _)
    | deleteKey hfree hidle hkeys hroot => exact absurd hfree h.not_free
    | _ => exact absurd hkeys (by simp [Step.editsKeys])

/-! ### What a session adds -/

theorem governed_after {steps : List Step} (h : Governed schema start editor)
    (hordered : schema.root.Ordered) (hsteps : editor.WithoutReset steps) :
    Governed schema start (editor.after steps) := by
  induction steps generalizing editor with
  | nil => exact h
  | cons step rest ih =>
    obtain ⟨hstep, hrest⟩ := hsteps
    apply ih _ hrest
    obtain ⟨fault, hrefused⟩ | haccepts := step_cases editor step
    · rw [hrefused]
      exact h
    · have hreset : step.isReset = false :=
        Bool.eq_false_iff.2 fun hreset => hstep hreset (accepts_iff.1 haccepts).2
      exact governed_of_accepts h hordered haccepts hreset

/-- In a session under a schema every path that was not there at the start is declared, however the
session goes on, as long as the form is not replaced. At every point of it the edits of keys are
refused, so they change nothing. -/
theorem session_adds_declared_paths_only (hordered : schema.root.Ordered)
    (hreach : Reachable editor) (hschema : editor.schema = some schema) {steps : List Step}
    (hsteps : editor.WithoutReset steps) :
    let last := editor.after steps
    (∀ path, (last.value.get? path).isSome = true → editor.value.get? path = none →
        ∃ node, schema.nodeAt (structuralPath path) = .ok node) ∧
      ∀ step : Step, step.editsKeys = true →
        ∃ fault, last.step step = ⟨last, .error fault, []⟩ := by
  intro last
  have hgoverned : Governed schema editor.value last :=
    governed_after (governed_of_reachable hreach hschema) hordered hsteps
  refine ⟨fun path hpath habsent => ?_, fun step hkeys => hgoverned.refuses hkeys⟩
  rcases hgoverned.within path hpath with hold | hdeclared
  · rw [habsent] at hold
    exact absurd hold (by decide)
  · exact hdeclared

/-- An input creates a container on its way, beside a key that is not declared; then a key is to be
added and the form is rendered. -/
theorem input_adds_declared_container :
    let editor := Editor.new (.obj [("z", .null)]) (some .sample)
    let steps := [.setValue "b..c" "7", .addKey none, .render .edit]
    Schema.sample.root.Ordered ∧ editor.WithoutReset steps ∧
      editor.value.get? ["b"] = none ∧ ((editor.after steps).value.get? ["b"]).isSome = true ∧
      (∃ node, Schema.sample.nodeAt (structuralPath ["b"]) = .ok node) ∧
      ∃ fault, (editor.after steps).step (.deleteKey "z") =
        ⟨editor.after steps, .error fault, []⟩ := by
  intro editor steps
  have hsteps : editor.WithoutReset steps := ⟨nofun, nofun, nofun, trivial⟩
  obtain ⟨hpaths, hrefused⟩ := session_adds_declared_paths_only Schema.ordered_sample
    (.new (.obj [("z", .null)]) (some .sample)) rfl hsteps
  have hnew : ((editor.after steps).value.get? ["b"]).isSome = true := by decide +kernel
  exact ⟨Schema.ordered_sample, hsteps, rfl, hnew, hpaths ["b"] hnew rfl,
    hrefused (.deleteKey "z") rfl⟩

end Editor

end FormTree
