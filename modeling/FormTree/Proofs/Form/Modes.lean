import FormTree.Proofs.Form.Rows

/-!
# Plans for reading and for editing

Both modes draw one form. Planning for editing under a schema works on a value that gets more nodes
as the walk goes on, and still finds at each site what planning for reading finds there, but for the
nodes it has just created. So the two plans have the same rows, errors and mismatches, and where
reading has nothing to show in a leaf, editing has `null`.

Without a schema nothing is created, and the plans differ only in the controls for keys.
-/

namespace FormTree

open Value Child

/-- Two rows for one thing, the first drawn for reading and the second for editing. -/
structure Row.Pair (read edit : Row) : Prop where
  key : edit.key = read.key
  path : edit.path = read.path
  depth : edit.depth = read.depth
  isContainer : edit.isContainer = read.isContainer
  kind : edit.kind = read.kind
  required : edit.required = read.required
  errors : edit.errors = read.errors
  mismatch : edit.mismatch = read.mismatch
  /-- A leaf can be edited even where there is no value yet. -/
  value : read.isContainer = false → edit.value = some (read.value.getD .null)

/-- The row with the controls to add, rename and delete keys. -/
def Row.withKeyControls (row : Row) : Row := { row with keyEditable := true }

namespace Plan

open Outline

variable {v : Value} {schema : Option Schema} {settings : Settings} {site : Site}
  {errors : List String}

/-! ### The rows of one site -/

theorem shown_edit {governed : Bool} {held : Option Value}
    (hheld : governed = false → held.isSome = true) :
    Frame.shown ⟨.edit, governed, settings⟩ false held = some (held.getD .null) := by
  cases governed with
  | true => exact congrArg some (opened_leaf_eq_getD held)
  | false =>
    obtain ⟨x, rfl⟩ := Option.isSome_iff_exists.1 (hheld rfl)
    rfl

theorem shown_read (governed container : Bool) (held : Option Value) :
    Frame.shown ⟨.read, governed, settings⟩ container held = held := rfl

theorem pair_rowAt {governed : Bool} (hheld : governed = false → site.held.isSome = true)
    (errors : List String) :
    (rowAt ⟨.read, governed, settings⟩ site errors).Pair
      (rowAt ⟨.edit, governed, settings⟩ site errors) where
  key := by simp only [key_rowAt]
  path := by simp only [path_rowAt]
  depth := by simp only [depth_rowAt]
  isContainer := by simp only [isContainer_rowAt]
  kind := by simp only [kind_rowAt]
  required := by simp only [required_rowAt]
  errors := by simp only [errors_rowAt]
  mismatch := by simp only [mismatch_rowAt]
  value := by
    intro hleaf
    rw [isContainer_rowAt] at hleaf
    rw [value_rowAt, value_rowAt, hleaf, shown_read, shown_edit hheld]
    rfl

theorem kind_eq_text_of_mem (hv : v.Ordered) (hsite : site ∈ rootSites v (ofValue v))
    {kind : InputKind} (hkind : site.outline = .leaf kind) : kind = .text := by
  obtain ⟨node, -, hsite⟩ := (mem_rootSites_ofValue hv).1 hsite
  have houtline : ofValue node = .leaf kind := (congrArg Site.outline hsite).symm.trans hkind
  cases node with
  | obj members => exact absurd houtline (by simp [ofValue])
  | _ => exact (Outline.leaf.inj houtline).symm

theorem rowAt_edit_of_text (hkind : ∀ kind, site.outline = .leaf kind → kind = .text) :
    rowAt ⟨.edit, false, settings⟩ site errors =
      (rowAt ⟨.read, false, settings⟩ site errors).withKeyControls := by
  obtain ⟨parent, key, required, outline, held⟩ := site
  cases outline with
  | leaf kind =>
    obtain rfl : kind = .text := hkind kind rfl
    rfl
  | group branches => rfl

/-! ### The plans -/

theorem isSome_held_of_mem (hv : v.Ordered) (hsite : site ∈ rootSites v (ofValue v)) :
    site.held.isSome = true := by
  obtain ⟨node, -, hsite⟩ := (mem_rootSites_ofValue hv).1 hsite
  rw [hsite]
  rfl

theorem pairs_make (hv : v.Ordered) (hordered : (Outline.of v schema).Ordered)
    (findings : List Finding) (settings : Settings) :
    List.Forall₂ Row.Pair (make v schema .read findings settings).rows
      (make v schema .edit findings settings).rows := by
  rw [rows_make hordered, rows_make hordered, List.forall₂_map_left_iff,
    List.forall₂_map_right_iff, List.forall₂_same]
  intro site hsite
  refine pair_rowAt (fun hfree => ?_) _
  obtain rfl : schema = none := by simpa using hfree
  exact isSome_held_of_mem hv hsite

/-- Without a schema a plan for editing is one for reading with controls for the keys. -/
theorem make_edit_of_free (hv : v.Ordered) (findings : List Finding) (settings : Settings) :
    let read := make v none .read findings settings
    make v none .edit findings settings =
      { read with rows := read.rows.map Row.withKeyControls } := by
  have hordered : (Outline.of v none).Ordered := ordered_ofValue v hv
  ext1
  · simp only [rows_make hordered, List.map_map]
    refine List.map_congr_left fun site hsite => ?_
    exact rowAt_edit_of_text fun kind => kind_eq_text_of_mem hv hsite
  · simp only [remaining_make hordered]
  · simp only [mismatches_make hordered]
  · rw [materialized_free, materialized_free]

/-- Plans for reading and for editing have the same rows, errors and mismatches, and every leaf has
a value to edit. -/
theorem read_and_edit_plans_agree (hv : v.Ordered)
    (hschema : ∀ s, schema = some s → s.root.Ordered) (findings : List Finding)
    (settings : Settings) :
    let read := make v schema .read findings settings
    let edit := make v schema .edit findings settings
    List.Forall₂ Row.Pair read.rows edit.rows ∧
      edit.errors = read.errors ∧ edit.mismatches = read.mismatches ∧
      (schema = none → (∀ row ∈ read.rows, row.keyEditable = false) ∧
        edit = { read with rows := read.rows.map Row.withKeyControls }) := by
  have hordered : (Outline.of v schema).Ordered := Outline.ordered_of hv hschema
  intro read edit
  refine ⟨pairs_make hv hordered findings settings, ?_, ?_, ?_⟩
  · exact (remaining_make hordered .edit findings settings).trans
      (remaining_make hordered .read findings settings).symm
  · exact (mismatches_make hordered .edit findings settings).trans
      (mismatches_make hordered .read findings settings).symm
  · rintro rfl
    refine ⟨fun row hrow => ?_, make_edit_of_free hv findings settings⟩
    obtain ⟨site, -, rfl⟩ := (mem_rows_make hordered).1 hrow
    exact keyEditable_rowAt _ _ _

/-- Of two leaves under a schema one is `null` and one is absent, below a container that is `null`
itself. -/
theorem absent_leaf_is_edited_as_null :
    (Value.obj [("a", .null), ("b", .null)]).Ordered ∧ Schema.sample.root.Ordered ∧
      List.Forall₂ Row.Pair
        (make (.obj [("a", .null), ("b", .null)]) (some .sample) .read [] .standard).rows
        (make (.obj [("a", .null), ("b", .null)]) (some .sample) .edit [] .standard).rows ∧
      (make (.obj [("a", .null), ("b", .null)]) (some .sample) .read [] .standard).rows.map
        Row.value = [some .null, none, none] ∧
      (make (.obj [("a", .null), ("b", .null)]) (some .sample) .edit [] .standard).rows.map
        Row.value = [some .null, none, some .null] := by
  have hv : (Value.obj [("a", .null), ("b", .null)]).Ordered :=
    ⟨by decide, trivial, trivial, trivial⟩
  have hschema : ∀ s, some Schema.sample = some s → s.root.Ordered := by
    rintro _ ⟨⟩
    exact Schema.ordered_sample
  obtain ⟨hpairs, -⟩ := read_and_edit_plans_agree hv hschema [] .standard
  exact ⟨hv, Schema.ordered_sample, hpairs, rfl, rfl⟩

end Plan

end FormTree
