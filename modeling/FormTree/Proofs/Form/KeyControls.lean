import FormTree.Proofs.Form.Replanning
import FormTree.Proofs.Tree.Seen
import Mathlib.Data.List.Sort

/-!
# The key controls of a row

Without a schema the rows of a form can be renamed, deleted, and given keys below them. A control
works with the dotted path of its row, and what it works on is the node that the row was drawn for:
the path is decoded to the keys which it was written for.

What deleting leaves is the form with the row and all rows below it taken out. The mappings above
lose a key each, or hold something smaller, but their rows show none of that.
-/

namespace FormTree

open Value Child

/-- The row stands at the path, or below it. -/
def Row.startsWith (row : Row) (path : KeyPath) : Bool :=
  match Dotted.decode row.path with
  | .ok keys => decide (path <+: keys)
  | .error _ => false

namespace Plan

open Outline

variable {v w : Value} {path : KeyPath} {site : Site} {frame : Frame} {errors : List String}

/-! ### Rows by their paths -/

/-- The site of the node at a path, without a schema. -/
def siteAt (v : Value) (path : KeyPath) : Site :=
  let node := (v.get? path).getD .null
  ⟨path.dropLast, path.getLast?.getD "", false, ofValue node, some node⟩

theorem path_siteAt (v : Value) (hne : path ≠ []) : (siteAt v path).path = path := by
  obtain ⟨parent, key, rfl⟩ := (List.eq_nil_or_concat path).resolve_left hne
  simp [siteAt, Site.path]

theorem siteAt_path (hv : v.Ordered) (hsite : site ∈ rootSites v (ofValue v)) :
    siteAt v site.path = site := by
  obtain ⟨node, hnode, heq⟩ := (mem_rootSites_ofValue hv).1 hsite
  rw [siteAt, hnode, Site.path, List.dropLast_concat, List.getLast?_concat]
  exact heq.symm

/-- The row of the node at a path, with the findings on it. -/
def nodeRow (frame : Frame) (findings : List Finding) (v : Value) (path : KeyPath) : Row :=
  rowAt frame (siteAt v path) ((findingsOn (Dotted.encode path) findings).map Finding.message)

/-- The rows of a form without a schema are drawn path by path. -/
theorem rows_make_free (hv : v.Ordered) (mode : Mode) (findings : List Finding)
    (settings : Settings) : (make v none mode findings settings).rows =
      ((rootSites v (ofValue v)).map Site.path).map
        (nodeRow ⟨mode, false, settings⟩ findings v) := by
  have hordered : (Outline.of v none).Ordered := ordered_ofValue v hv
  rw [rows_make hordered, List.map_map]
  refine List.map_congr_left fun site hsite => ?_
  rw [Function.comp_apply, nodeRow, siteAt_path hv hsite]
  rfl

theorem nodeRow_of_mapping {members : List (String × Value)}
    (h : v.get? path = some (.obj members)) (frame : Frame) (findings : List Finding) :
    nodeRow frame findings v path =
      groupRow frame (path.dropLast ++ [path.getLast?.getD ""]) (path.getLast?.getD "") false
        ((findingsOn (Dotted.encode path) findings).map Finding.message) none := by
  have hfault : (siteAt v path).fault? = none := by
    rw [siteAt, h]
    exact objectionTo?_eq_none_iff.2 (admits_ofMembers members)
  rw [nodeRow, rowAt, hfault, siteAt, h]
  rfl

/-- The row of a node tells no more than what is seen of it. -/
theorem nodeRow_of_seen (h : w.seen path = v.seen path) (frame : Frame) (findings : List Finding) :
    nodeRow frame findings w path = nodeRow frame findings v path := by
  obtain hsame | ⟨⟨inner, hbefore⟩, ⟨left, hafter⟩⟩ := get?_cases_of_seen h
  · rw [nodeRow, nodeRow, siteAt, siteAt, hsame]
  · rw [nodeRow_of_mapping hbefore, nodeRow_of_mapping hafter]

theorem startsWith_nodeRow (hne : path ≠ []) (frame : Frame) (findings : List Finding) (v : Value)
    (above : KeyPath) :
    (nodeRow frame findings v path).startsWith above = decide (above <+: path) := by
  rw [Row.startsWith, nodeRow, path_rowAt, Site.address, path_siteAt v hne, Dotted.decode_encode]

/-! ### Rows after a deletion -/

theorem paths_deleteKey (hv : v.Ordered) (h : Edit.deleteKey v path = .ok w) :
    (rootSites w (ofValue w)).map Site.path =
      ((rootSites v (ofValue v)).map Site.path).filter fun other => !decide (path <+: other) := by
  have hw : w.Ordered := Edit.ordered_deleteKey hv h
  refine List.Pairwise.eq_of_mem_iff (increasing_paths w (ordered_ofValue w hw))
    ((increasing_paths v (ordered_ofValue v hv)).filter _) fun other => ?_
  rw [List.mem_filter, mem_paths_ofValue hv, mem_paths_ofValue hw]
  rw [← isSome_seen, ← isSome_seen, Edit.seen_deleteKey h]
  by_cases hpath : path <+: other <;> simp [hpath]

theorem rows_deleteKey (hv : v.Ordered) (h : Edit.deleteKey v path = .ok w) (mode : Mode)
    (findings : List Finding) (settings : Settings) :
    (make w none mode findings settings).rows =
      (make v none mode findings settings).rows.filter fun row => !row.startsWith path := by
  have hne : ∀ other ∈ (rootSites v (ofValue v)).map Site.path, other ≠ [] :=
    fun other hother => ((mem_paths_ofValue hv).1 hother).1
  rw [rows_make_free hv, rows_make_free (Edit.ordered_deleteKey hv h), paths_deleteKey hv h]
  generalize (rootSites v (ofValue v)).map Site.path = paths at hne
  have hkept : paths.filter ((fun row => !row.startsWith path) ∘
      nodeRow ⟨mode, false, settings⟩ findings v) =
        paths.filter fun other => !decide (path <+: other) :=
    List.filter_congr fun other hother =>
      congrArg not (startsWith_nodeRow (hne other hother) _ _ _ _)
  rw [List.filter_map, hkept]
  refine List.map_congr_left fun other hother => ?_
  have hapart : ¬ path <+: other := by simpa using (List.mem_filter.1 hother).2
  apply nodeRow_of_seen
  rw [Edit.seen_deleteKey h, if_neg hapart]

end Plan

namespace Editor

open Outline

variable {editor : Editor} {path : String} {keys : KeyPath} {node : Value} {draw : Step}
  {plan : Plan}

theorem exists_findings_of_draw
    (hdraw : draw = .render .edit ∨ ∃ findings, draw = .renderWith .edit findings) :
    ∃ findings, ∀ editor : Editor, editor.schema = none → (editor.step draw).editor = editor ∧
      (editor.step draw).answer = .ok (.plan (editor.plan .edit findings)) := by
  rcases hdraw with rfl | ⟨findings, rfl⟩
  · refine ⟨[], fun editor hfree => ?_⟩
    have hsame : (editor.rendered .edit).editor = editor := rendered_editor hfree .edit
    have hnone : editor.findings = [] := by rw [Editor.findings, findingsBy, hfree]
    rw [step_render, answer_rendered, hsame, hnone]
    exact ⟨rfl, rfl⟩
  · refine ⟨findings, fun editor hfree => ?_⟩
    rw [(accepts_iff.1 (.renderWith .edit findings)).1]
    exact ⟨drawn_editor hfree .edit findings, rfl⟩

theorem exists_node_of_row (hv : editor.value.Ordered) (hfree : editor.schema = none)
    {findings : List Finding} {row : Row} (hrow : row ∈ (editor.plan .edit findings).rows) :
    ∃ keys node, keys ≠ [] ∧ row.path = Dotted.encode keys ∧
      editor.value.get? keys = some node := by
  have hordered : (Outline.of editor.value none).Ordered := ordered_ofValue editor.value hv
  rw [Editor.plan, hfree] at hrow
  obtain ⟨site, hsite, rfl⟩ := (Plan.mem_rows_make hordered).1 hrow
  obtain ⟨node, hnode, -⟩ := (mem_rootSites_ofValue hv).1 hsite
  exact ⟨site.path, node, List.concat_ne_nil _ _, Plan.path_rowAt _ _ _, hnode⟩

theorem accepts_deleteKey (hfree : editor.schema = none) (hidle : editor.slot = .idle)
    (hkeys : Dotted.decode path = .ok keys) (hne : keys ≠ [])
    (hnode : editor.value.get? keys = some node) :
    ∃ root, Edit.deleteKey editor.value keys = .ok root ∧
      (editor.step (.deleteKey path)).answer = .ok .done ∧
      (editor.step (.deleteKey path)).editor = { editor with value := root, slot := .idle } := by
  obtain ⟨root, hroot⟩ := Edit.exists_deleteKey hne hnode
  have hchange : root.same editor.value = false := by
    have hdiffer : (root.get? keys).isSome ≠ (editor.value.get? keys).isSome := by
      rw [← isSome_seen, Edit.seen_deleteKey hroot, if_pos List.prefix_rfl, hnode,
        Option.isSome_none, Option.isSome_some]
      decide
    exact not_same_of_isSome_get?_ne hdiffer
  have hinstall : ({ editor with slot := .idle }).install root = _ := install_of_not_same hchange
  refine ⟨root, hroot, ?_⟩
  rw [(accepts_iff.1 (.deleteKey hfree hidle hkeys hroot)).1, edited, hinstall]
  exact ⟨rfl, rfl⟩

theorem accepts_addKey (hfree : editor.schema = none) (hidle : editor.slot = .idle)
    (hkeys : Dotted.decode path = .ok keys) (hnode : editor.value.get? keys = some node)
    (hroom : node.member? "" = none) :
    (editor.step (.addKey (some path))).answer =
      .ok (.newKey (Dotted.encode (keys ++ [""]))) := by
  obtain ⟨root, hroot⟩ :=
    exists_replace? hnode (.obj (Members.put "" (.str "") (Edit.membersOf node)))
  have hadd : Edit.addKey editor.value keys = .ok (root, ⟨keys ++ [""], node⟩) :=
    Edit.addKey_eq_ok.2 ⟨node, hnode, hroom, hroot, rfl⟩
  have hgiven : Dotted.decode ((some path).getD "") = .ok keys := hkeys
  rw [(accepts_iff.1 (.addKey hfree hidle hgiven hadd)).1]
  rfl

theorem refused_addKey {fault : FieldError} (hfree : editor.schema = none)
    (hidle : editor.slot = .idle) (hkeys : Dotted.decode path = .ok keys)
    (hadd : Edit.addKey editor.value keys = .error fault) :
    (editor.step (.addKey (some path))).answer = .error fault := by
  have hdecode : decode path = .ok keys := decode_eq_ok.2 hkeys
  have hslot : editor.slot.ensureIdle = .ok () := KeySlot.ensureIdle_eq_ok.2 hidle
  have hcall : (KeySlot.Call.beginAdd editor.value keys).start editor.slot =
      (.error fault, editor.slot) := by
    rw [KeySlot.Call.beginAdd, Program.start_get_bind, Program.start_liftM_bind_of_ok hslot,
      Program.start_liftM_bind_of_error hadd]
  have hstart : (perform (.addKey (some path))).start ⟨editor, []⟩ =
      (.error fault, ⟨editor, []⟩) := by
    rw [perform, start_current_bind, Program.start_liftM_bind_of_ok (ensureFreeKeys_eq_ok.2 hfree),
      Option.getD_some, Program.start_liftM_bind_of_ok hdecode, start_current_bind,
      Program.start_bind, onSlot, Program.start_within, hcall]
  rw [step_of_start hstart]

/-- Each control of a row works on the node that the row was drawn for. The key can be renamed.
It can be deleted, and then the row and those below it are gone and all others are as they were. And
a key can be added below it, unless there is one with the empty name. -/
theorem key_controls_work (hv : editor.value.Ordered) (hfree : editor.schema = none)
    (hidle : editor.slot = .idle)
    (hdraw : draw = .render .edit ∨ ∃ findings, draw = .renderWith .edit findings)
    (hplan : (editor.step draw).answer = .ok (.plan plan)) {row : Row} (hrow : row ∈ plan.rows) :
    let shown := (editor.step draw).editor
    let deleted := shown.step (.deleteKey row.path)
    let added := shown.step (.addKey (some row.path))
    ∃ keys node, Dotted.decode row.path = .ok keys ∧ editor.value.get? keys = some node ∧
      (shown.step (.beginRename row.path)).answer = .ok .done ∧
      (deleted.answer = .ok .done ∧
        ∃ next, (deleted.editor.step draw).answer = .ok (.plan next) ∧
          next.rows = plan.rows.filter fun other => !other.startsWith keys) ∧
      ((∃ members, node = .obj members ∧ "" ∈ Members.keys members) →
        added.answer = .error (.keyCollision "")) ∧
      ((¬ ∃ members, node = .obj members ∧ "" ∈ Members.keys members) →
        added.answer = .ok (.newKey (Dotted.encode (keys ++ [""])))) := by
  intro shown deleted added
  obtain ⟨findings, hdrawn⟩ := exists_findings_of_draw hdraw
  obtain ⟨hshown, hanswer⟩ := hdrawn editor hfree
  rw [hanswer, Except.ok.injEq, Answer.plan.injEq] at hplan
  subst hplan
  obtain ⟨keys, node, hne, hpath, hnode⟩ := exists_node_of_row hv hfree hrow
  have hkeys : Dotted.decode row.path = .ok keys := hpath ▸ Dotted.decode_encode keys
  have hrenamed := accepts_iff.1 (.beginRename hfree hidle hkeys hne hnode)
  obtain ⟨root, hroot, hdeleted, hafter⟩ := accepts_deleteKey hfree hidle hkeys hne hnode
  simp only [deleted, added, shown, hshown]
  refine ⟨keys, node, hkeys, hnode, ?_, ⟨hdeleted, _, (hdrawn _ ?_).2, ?_⟩, ?_, fun hroom => ?_⟩
  · rw [hrenamed.1]
    rfl
  · rw [hafter, hfree]
  · rw [hafter, Editor.plan, Editor.plan, hfree]
    exact Plan.rows_deleteKey hv hroot .edit findings editor.settings
  · rintro ⟨members, rfl, hempty⟩
    exact refused_addKey hfree hidle hkeys (Edit.addKey_eq_keyCollision hnode hempty)
  · refine accepts_addKey hfree hidle hkeys hnode (Option.eq_none_iff_forall_ne_some.2 ?_)
    intro x hx
    obtain ⟨members, rfl, hfind⟩ := member?_eq_some_iff.1 hx
    exact hroom ⟨members, rfl, Members.mem_keys_of_find? hfind⟩

/-- The empty key, whose mapping has an empty key itself, and a key with a separator in it. -/
theorem controls_of_unusual_keys :
    let editor := Editor.new (.obj [("", .obj [("", .null)]), ("x..y", .str "z")]) none
    let plan := editor.plan .edit []
    editor.value.Ordered ∧ (editor.step (.render .edit)).answer = .ok (.plan plan) ∧
      "/0" ∈ plan.rows.map Row.path ∧ "x/./.y" ∈ plan.rows.map Row.path ∧
      (editor.step (.addKey (some "/0"))).answer = .error (.keyCollision "") ∧
      (∃ next, ((editor.step (.deleteKey "/0")).editor.step (.render .edit)).answer =
          .ok (.plan next) ∧
        next.rows = plan.rows.filter fun row => !row.startsWith [""]) ∧
      (editor.step (.beginRename "x/./.y")).answer = .ok .done := by
  intro editor plan
  have hv : editor.value.Ordered := ⟨by decide, ⟨by decide, trivial, trivial⟩, trivial, trivial⟩
  have hplan : (editor.step (.render .edit)).answer = .ok (.plan plan) := rfl
  have hempty : "/0" ∈ plan.rows.map Row.path := by decide +kernel
  have hdotted : "x/./.y" ∈ plan.rows.map Row.path := by decide +kernel
  obtain ⟨first, hfirst, hpath⟩ := List.mem_map.1 hempty
  obtain ⟨second, hsecond, hother⟩ := List.mem_map.1 hdotted
  obtain ⟨keys, node, hkeys, hnode, -, ⟨-, hdeleted⟩, hcollision, -⟩ :=
    key_controls_work hv rfl rfl (.inl rfl) hplan hfirst
  obtain ⟨-, -, -, -, hrenamed, -⟩ := key_controls_work hv rfl rfl (.inl rfl) hplan hsecond
  rw [hpath] at hkeys hdeleted hcollision
  rw [hother] at hrenamed
  obtain rfl : [""] = keys := Except.ok.inj hkeys
  obtain rfl : .obj [("", .null)] = node := Option.some.inj hnode
  exact ⟨hv, hplan, hempty, hdotted, hcollision ⟨_, rfl, by decide⟩, hdeleted, hrenamed⟩

end Editor

end FormTree
