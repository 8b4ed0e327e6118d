import FormTree.Proofs.Form.Change
import FormTree.Proofs.Form.Materialized

/-!
# Planning once more

A plan for editing, made once more for the value that it created, is the same plan and creates
nothing: the filled value has the sites that the value had, with the same faults, and each leaf
shows what it was going to show (`make_fill`).

So rendering, which plans twice for editing, answers with a plan of the value that it leaves and the
findings of that value, and doing it again changes nothing and is heard by nobody.
-/

namespace FormTree

open Value Child

namespace Outline

variable {site : Site} {root : List Branch}

theorem fault?_filled (hordered : site.outline.Ordered) : site.filled.fault? = site.fault? := by
  obtain ⟨parent, key, required, outline, held⟩ := site
  cases outline with
  | leaf kind => rfl
  | group branches => exact objectionTo?_fill hordered held (parent ++ [key])

theorem mismatch?_filled (hordered : site.outline.Ordered) :
    site.filled.mismatch? = site.mismatch? := by
  rw [Site.mismatch?, fault?_filled hordered]
  rfl

theorem rootMismatch?_fill (hordered : OrderedBelow root) (v : Value) :
    Plan.rootMismatch? (fill (.group root) (some v)) (.group root) =
      Plan.rootMismatch? v (.group root) :=
  congrArg (Option.map (Plan.mismatch [])) (objectionTo?_fill hordered (some v) [])

end Outline

namespace Plan

open Outline

variable {v : Value} {schema : Schema} {frame : Frame} {site : Site} {errors : List String}

/-- Drawn with building, a site has the row that it has once it is filled. -/
theorem rowAt_filled (hbuilds : frame.builds = true) (hordered : site.outline.Ordered) :
    rowAt frame site.filled errors = rowAt frame site errors := by
  have hfault : site.filled.fault? = site.fault? := fault?_filled hordered
  obtain ⟨parent, key, required, outline, held⟩ := site
  cases outline with
  | leaf kind =>
    have hshown : frame.shown false (some (fill (.leaf kind) held)) = frame.shown false held := by
      rw [Frame.shown, Frame.shown, if_pos hbuilds, if_pos hbuilds, opened_leaf]
      rfl
    simp only [rowAt, Site.filled, hshown]
    rfl
  | group branches => exact congrArg (groupRow frame (parent ++ [key]) key required errors) hfault

/-- Planning for editing once more, with the filled value, gives the same plan and creates
nothing. -/
theorem make_fill (hschema : schema.root.Ordered) (v : Value) (findings : List Finding)
    (settings : Settings) : make (schema.fill v) (some schema) .edit findings settings =
      { make v (some schema) .edit findings settings with materialized := none } := by
  have hroot : OrderedBelow (ofNode schema.root) := orderedBelow_ofNode schema.root hschema
  have hordered : ∀ w : Value, (Outline.of w (some schema)).Ordered := fun _ => hroot
  have hsites : rootSites (schema.fill v) (.of (schema.fill v) (some schema)) =
      (rootSites v (.of v (some schema))).map Site.filled := rootSites_fill hroot v
  have hsite : ∀ site ∈ rootSites v (.of v (some schema)), site.outline.Ordered :=
    fun site hmem => (mem_rootSites.1 hmem).ordered hroot
  ext1
  · rw [rows_make (hordered _), rows_make (hordered _), hsites, List.map_map]
    exact List.map_congr_left fun site hmem => rowAt_filled rfl (hsite site hmem)
  · rw [remaining_make (hordered _), remaining_make (hordered _), hsites, List.map_map]
    rfl
  · rw [mismatches_make (hordered _), mismatches_make (hordered _), hsites, List.filterMap_map]
    refine congrArg₂ _ (congrArg _ (rootMismatch?_fill hroot v)) ?_
    exact List.filterMap_congr fun site hmem => mismatch?_filled (hsite site hmem)
  · rw [materialized_edit, Schema.fill_fill, if_pos (same_self _)]

end Plan

namespace Editor

variable {editor : Editor} {mode : Mode} {schema : Schema}

/-! ### Rendering once more -/

/-- Planning in this mode creates nothing. -/
def Grown (editor : Editor) (mode : Mode) : Prop :=
  ∀ findings, (editor.plan mode findings).materialized = none

theorem rendered_of_grown (h : editor.Grown mode) :
    editor.rendered mode =
      ⟨editor, .ok (.plan (editor.plan mode editor.findings)), []⟩ := by
  have hinstall : ∀ findings, editor.installPlan (editor.plan mode findings) = (editor, []) := by
    intro findings
    rw [installPlan, h findings]
  have hgrown : editor.grown mode = (editor, []) := by
    rw [Editor.grown, hinstall, ite_self]
  simp only [rendered, hgrown, drawn, hinstall, List.append_nil]

theorem grown_installed (editor : Editor) (mode : Mode) : (editor.grown mode).1.Grown mode := by
  intro findings
  by_cases hgrows : mode = .edit ∧ editor.schema.isSome
  · obtain ⟨rfl, hsome⟩ := hgrows
    obtain ⟨schema, hschema⟩ := Option.isSome_iff_exists.1 hsome
    rw [Editor.grown, if_pos ⟨rfl, hsome⟩, installPlan_edit hschema, plan, install_schema, hschema,
      Plan.materialized_edit]
    refine if_pos ?_
    cases hsame : (schema.fill editor.value).same editor.value with
    | true => rw [install_of_same hsame, hsame]
    | false => rw [install_of_not_same hsame, Schema.fill_fill, same_self]
  · rw [Editor.grown, if_neg hgrows]
    exact materialized_of_not_grows hgrows findings

theorem step_render (editor : Editor) (mode : Mode) :
    editor.step (.render mode) = editor.rendered mode :=
  (accepts_iff.1 (.render mode)).1

theorem answer_rendered (editor : Editor) (mode : Mode) :
    let rendered := editor.rendered mode
    rendered.answer = .ok (.plan (rendered.editor.plan mode rendered.editor.findings)) := by
  intro rendered
  rw [(rendered_eq editor mode).1]
  rfl

/-- A plan for editing is the plan of the value that it created, for which there is nothing to
create any more. Rendering answers with such a plan, and rendering again with the same one; then
nothing changes and nobody is told anything. -/
theorem edit_planning_is_idempotent (hschema : schema.root.Ordered) (v : Value)
    (findings : List Finding) (settings : Settings) (editor : Editor) (mode : Mode) :
    let plan := Plan.make v (some schema) .edit findings settings
    let rendered := editor.step (.render mode)
    let drawn := rendered.editor.plan mode rendered.editor.findings
    Plan.make (plan.materialized.getD v) (some schema) .edit findings settings =
        { plan with materialized := none } ∧
      rendered.answer = .ok (.plan drawn) ∧ drawn.materialized = none ∧
        rendered.editor.step (.render mode) = ⟨rendered.editor, .ok (.plan drawn), []⟩ := by
  intro plan rendered drawn
  have hrendered : rendered = editor.rendered mode := step_render editor mode
  have hgrown : rendered.editor.Grown mode := by
    rw [hrendered, (rendered_eq editor mode).1]
    exact grown_installed editor mode
  refine ⟨?_, ?_, hgrown _, ?_⟩
  · rw [Plan.materialized_getD]
    exact Plan.make_fill hschema v findings settings
  · rw [hrendered, answer_rendered editor mode, ← hrendered]
  · rw [step_render]
    exact rendered_of_grown hgrown

/-- The first rendering creates a container and the leaf in it, and the second one nothing. -/
theorem rendering_twice_creates_once :
    let editor := Editor.new (.obj [("a", .str "x")]) (some .sample)
    let rendered := editor.step (.render .edit)
    Schema.sample.root.Ordered ∧
      rendered.editor.value.get? ["b", "c"] = some .null ∧
      rendered.editor.step (.render .edit) = ⟨rendered.editor, rendered.answer, []⟩ := by
  intro editor rendered
  have hwhole := edit_planning_is_idempotent Schema.ordered_sample (.obj [("a", .str "x")]) []
    .standard editor .edit
  obtain ⟨-, hanswer, -, hagain⟩ := hwhole
  refine ⟨Schema.ordered_sample, ?_, ?_⟩
  · rfl
  · rw [show rendered.answer = _ from hanswer]
    exact hagain

end Editor

end FormTree
