import FormTree.Proofs.Form.Modes
import FormTree.Proofs.Form.Order
import FormTree.Proofs.Form.Replanning

/-!
# Setting what a row shows

Every leaf that is shown can be set. The walk of a plan and the lookup of an input find the widget
of a leaf in different ways, and they agree (`kindAt_of_mem`); and on the way to a site every node
is a mapping or can become one, so that there is a place to store at (`exists_store`).

What is set at a leaf is seen in its own row only. Other sites branch off, or they are for groups on
the way there, which have room before and after (`store_cases`). So the new value has the sites of
the old one (`rootSites_on`), and the plans of both have rows of the same form.
-/

namespace FormTree

open Value Child

/-- The rows are for one thing, whatever they show. -/
structure Row.SameForm (before after : Row) : Prop where
  key : after.key = before.key
  path : after.path = before.path
  depth : after.depth = before.depth
  isContainer : after.isContainer = before.isContainer
  kind : after.kind = before.kind
  required : after.required = before.required
  mismatch : after.mismatch = before.mismatch

theorem Row.SameForm.refl (row : Row) : row.SameForm row := ⟨rfl, rfl, rfl, rfl, rfl, rfl, rfl⟩

namespace Outline

variable {v w new : Value} {root branches inside : List Branch} {path done rest : KeyPath}
  {key last : String} {site other : Site} {kind : InputKind} {members : List (String × Value)}

/-! ### Sites of another value -/

/-- The site with what another value holds there. -/
def Site.on (site : Site) (w : Value) : Site := { site with held := w.get? site.path }

theorem admits_iff_of_objectionTo?_eq {declared : List String} {held other : Option Value}
    (h : objectionTo? other declared path = objectionTo? held declared path) :
    Admits declared other ↔ Admits declared held := by
  rw [← @objectionTo?_eq_none_iff _ other path, h, objectionTo?_eq_none_iff]

mutual

theorem sites_on : (outline : Outline) → (path : KeyPath) → (key : String) → (required : Bool) →
    (∀ site ∈ sites path key required outline (v.get? (path ++ [key])),
      (site.on w).fault? = site.fault?) →
    sites path key required outline (w.get? (path ++ [key])) =
      (sites path key required outline (v.get? (path ++ [key]))).map (·.on w)
  | .leaf kind, path, key, required, _ => rfl
  | .group branches, path, key, required, h => by
    have hadmits : Admits (keys branches) (w.get? (path ++ [key])) ↔
        Admits (keys branches) (v.get? (path ++ [key])) :=
      admits_iff_of_objectionTo?_eq (h _ (mem_sites_group.2 (.inl rfl)))
    rw [sites, sites, List.map_cons]
    refine congrArg _ ?_
    by_cases hroom : Admits (keys branches) (v.get? (path ++ [key]))
    · rw [if_pos hroom, if_pos (hadmits.2 hroom)]
      exact sitesBelow_on branches (path ++ [key]) fun site hsite =>
        h site (mem_sites_group.2 (.inr ⟨hroom, hsite⟩))
    · rw [if_neg hroom, if_neg (mt hadmits.1 hroom)]
      rfl

theorem sitesBelow_on : (branches : List Branch) → (path : KeyPath) →
    (∀ site ∈ sitesBelow path branches (v.get? path), (site.on w).fault? = site.fault?) →
    sitesBelow path branches (w.get? path) =
      (sitesBelow path branches (v.get? path)).map (·.on w)
  | [], path, _ => rfl
  | (key, required, outline) :: rest, path, h => by
    simp only [sitesBelow, List.mem_append, ← get?_concat, List.map_append] at h ⊢
    have hfirst := sites_on outline path key required fun site hsite => h site (.inl hsite)
    have hothers := sitesBelow_on rest path fun site hsite => h site (.inr hsite)
    rw [hfirst, hothers]

end

theorem rootSites_on
    (hroot : Admits (keys root) (some w) ↔ Admits (keys root) (some v))
    (h : ∀ site ∈ rootSites v (.group root), (site.on w).fault? = site.fault?) :
    rootSites w (.group root) = (rootSites v (.group root)).map (·.on w) := by
  rw [rootSites] at h ⊢
  rw [rootSites]
  by_cases hroom : Admits (keys root) (some v)
  · rw [if_pos hroom] at h ⊢
    rw [if_pos (hroot.2 hroom)]
    exact sitesBelow_on root [] h
  · rw [if_neg hroom, if_neg (mt hroot.1 hroom)]
    rfl

/-! ### Storing at a leaf -/

theorem exists_store (hsite : site ∈ rootSites v (.group root)) (new : Value) :
    ∃ w, v.store site.path new = .ok w := by
  refine exists_storeFrom (fun above habove hne => ?_) [] new
  obtain ⟨tail, hpath⟩ := habove
  have htail : tail ≠ [] := by
    rintro rfl
    exact hne (List.append_nil above ▸ hpath)
  obtain ⟨key, rest, rfl⟩ := List.exists_cons_of_ne_nil htail
  obtain ⟨inside, hreached, -⟩ := (mem_rootSites.1 hsite).on_way hpath.symm
  exact hreached.admits.exists_members

theorem Reached.admits_store (h : Reached v root done inside) (hkey : key ∈ keys inside)
    (hstore : v.store (done ++ key :: rest) new = .ok w) :
    Admits (keys inside) (w.get? done) := by
  obtain ⟨members, child, hopened, hafter⟩ := get?_storeFrom_above hstore
  have hroom := h.admits
  rw [← admits_opened, hopened, admits_obj_iff] at hroom
  rw [hafter, admits_obj_iff]
  intro other hother
  rcases (Members.mem_keys_put_iff child).1 hother with rfl | hold
  · exact hkey
  · exact hroom other hold

/-- A site is that of the leaf which is set, or for a group above it, or apart from it. -/
theorem store_cases (hordered : OrderedBelow root) (hsite : site ∈ rootSites v (.group root))
    (hleaf : site.outline = .leaf kind) (hother : other ∈ rootSites v (.group root))
    (hstore : v.store site.path new = .ok w) :
    other = site ∨
      (∃ inside, other.outline = .group inside ∧ Admits (keys inside) other.held ∧
        Admits (keys inside) (w.get? other.path)) ∨
      w.get? other.path = other.held := by
  obtain ⟨-, -, -, hheld⟩ := mem_rootSites.1 hother
  by_cases habove : other.path <+: site.path
  · obtain ⟨tail, hpath⟩ := habove
    cases tail with
    | nil =>
      rw [List.append_nil] at hpath
      have hroot : (Outline.group root).Ordered := hordered
      exact .inl (eq_of_path_eq hroot hother hsite hpath)
    | cons key rest =>
      obtain ⟨inside, houtline, hreached, hkey⟩ :=
        group_of_below hordered hother hsite hpath.symm
      rw [← hpath] at hstore
      have hbefore := hreached.admits
      rw [← hheld] at hbefore
      exact .inr (.inl ⟨inside, houtline, hbefore, hreached.admits_store hkey hstore⟩)
  · -- nothing has a site below a leaf
    have hbelow : ¬ site.path <+: other.path := by
      rintro ⟨tail, hpath⟩
      cases tail with
      | nil =>
        rw [List.append_nil] at hpath
        exact habove (hpath ▸ List.prefix_rfl)
      | cons key rest =>
        obtain ⟨inside, houtline, -⟩ := group_of_below hordered hsite hother hpath.symm
        rw [hleaf] at houtline
        exact Outline.noConfusion houtline
    rw [get?_storeFrom_of_apart hstore habove hbelow, hheld]
    exact .inr (.inr rfl)

/-- What is set at a leaf is no reason for an objection, and takes none away. -/
theorem fault?_on_store (hordered : OrderedBelow root) (hsite : site ∈ rootSites v (.group root))
    (hleaf : site.outline = .leaf kind) (hother : other ∈ rootSites v (.group root))
    (hstore : v.store site.path new = .ok w) : (other.on w).fault? = other.fault? := by
  rcases store_cases hordered hsite hleaf hother hstore with
    rfl | ⟨inside, houtline, hbefore, hafter⟩ | hsame
  · simp only [Site.fault?, Site.on, hleaf]
  · simp only [Site.fault?, Site.on, houtline, objectionTo?_eq_none_iff.2 hbefore,
      objectionTo?_eq_none_iff.2 hafter]
  · rw [Site.on, hsame]

theorem rootSites_store (hordered : OrderedBelow root) (hsite : site ∈ rootSites v (.group root))
    (hleaf : site.outline = .leaf kind) (hstore : v.store site.path new = .ok w) :
    rootSites w (.group root) = (rootSites v (.group root)).map (·.on w) := by
  refine rootSites_on ?_ fun other hother => fault?_on_store hordered hsite hleaf hother hstore
  obtain ⟨key, rest, hpath⟩ := List.exists_cons_of_ne_nil (List.concat_ne_nil site.key site.parent)
  have hway : site.path = [] ++ key :: rest := hpath
  obtain ⟨inside, hreached, hkey⟩ := (mem_rootSites.1 hsite).on_way hway
  obtain rfl : inside = root := hreached.eq_root rfl
  rw [hway] at hstore
  exact iff_of_true (hreached.admits_store hkey hstore) hreached.admits

/-! ### Outlines without a schema -/

theorem ofMembers_put {child x : Value} (hfind : Members.find? key members = some x)
    (hchild : ofValue child = ofValue x) :
    ofMembers (Members.put key child members) = ofMembers members := by
  rw [Members.put, if_pos (Members.has_eq_true_iff.2 ⟨x, hfind⟩)]
  induction members with
  | nil => exact absurd hfind (Option.some_ne_none x).symm
  | cons entry rest ih =>
    obtain ⟨name, held⟩ := entry
    by_cases hname : name = key
    · rw [Members.find?, if_pos hname, Option.some.injEq] at hfind
      rw [Members.assign, if_pos hname, ofMembers, ofMembers, hchild, hfind]
    · rw [Members.find?, if_neg hname] at hfind
      rw [Members.assign, if_neg hname, ofMembers, ofMembers, ih hfind]

theorem ofValue_of_not_container (h : v.isContainer = false) : ofValue v = .leaf .text := by
  cases v with
  | obj members => exact absurd h (by simp [Value.isContainer])
  | _ => rfl

theorem ofValue_store {old : Value} (hold : v.get? path = some old)
    (hleaf : old.isContainer = false) (hnew : new.isContainer = false) {before : KeyPath}
    (hstore : storeFrom before v path new = .ok w) : ofValue w = ofValue v := by
  induction path generalizing before v w with
  | nil =>
    obtain rfl : v = old := Option.some.inj hold
    obtain rfl : new = w := Except.ok.inj hstore
    rw [ofValue_of_not_container hleaf, ofValue_of_not_container hnew]
  | cons key rest ih =>
    rw [get?_cons, Option.bind_eq_some_iff] at hold
    obtain ⟨x, hx, hbelow⟩ := hold
    obtain ⟨siblings, rfl, hfind⟩ := member?_eq_some_iff.1 hx
    obtain ⟨members, child, hopened, hchild, rfl⟩ := storeFrom_cons_eq_ok.1 hstore
    obtain rfl : siblings = members := Value.obj.inj hopened
    rw [hfind, Option.getD_some] at hchild
    rw [ofValue, ofValue, ofMembers_put hfind (ih hbelow hchild)]

/-- What is set at a leaf leaves the outline of the form as it is. -/
theorem of_store {schema : Option Schema} (hv : v.Ordered)
    (hsite : site ∈ rootSites v (.of v schema)) (hleaf : site.outline = .leaf kind)
    (hnew : new.isContainer = false) (hstore : v.store site.path new = .ok w) :
    Outline.of w schema = .of v schema := by
  cases schema with
  | some schema => rfl
  | none =>
    obtain ⟨node, hnode, heq⟩ := (mem_rootSites_ofValue hv).1 hsite
    have hshape : (ofValue node).isGroup = false := by
      rw [← show site.outline = ofValue node from congrArg Site.outline heq, hleaf]
      rfl
    rw [isGroup_ofValue] at hshape
    exact ofValue_store hnode hshape hnew hstore

end Outline

namespace Plan

open Outline

variable {v w new : Value} {schema : Option Schema} {site : Site} {kind : InputKind}

theorem sameForm_rowAt_on {frame changed : Frame} (hfault : (site.on w).fault? = site.fault?)
    (errors others : List String) :
    (rowAt frame site errors).SameForm (rowAt changed (site.on w) others) where
  key := by simp only [key_rowAt, Site.on]
  path := by simp only [path_rowAt, Site.address, Site.path, Site.on]
  depth := by simp only [depth_rowAt, Site.path, Site.on]
  isContainer := by simp only [isContainer_rowAt, Site.on]
  kind := by simp only [kind_rowAt, Site.on]
  required := by simp only [required_rowAt, Site.on]
  mismatch := by simp only [mismatch_rowAt, hfault]

theorem value_rowAt_on {frame changed : Frame} (hbuilds : changed.builds = frame.builds)
    (h : site.outline.isGroup = true ∨ w.get? site.path = site.held)
    (errors others : List String) :
    (rowAt changed (site.on w) others).value = (rowAt frame site errors).value := by
  rw [value_rowAt, value_rowAt, Frame.shown, Frame.shown, hbuilds, Site.on]
  rcases h with hgroup | hheld
  · rw [if_pos hgroup, if_pos hgroup]
  · rw [hheld]

/-- What is set at a leaf changes no row in its form, and no other row in what it shows. -/
theorem sameForm_make_store (hv : v.Ordered) (hschema : ∀ s, schema = some s → s.root.Ordered)
    (hsite : site ∈ rootSites v (.of v schema)) (hleaf : site.outline = .leaf kind)
    (hnew : new.isContainer = false) (hstore : v.store site.path new = .ok w) (mode : Mode)
    (findings others : List Finding) (settings changed : Settings) :
    List.Forall₂ (fun before after => before.SameForm after ∧
        (before.path ≠ site.address → after.value = before.value))
      (make v schema mode findings settings).rows (make w schema mode others changed).rows := by
  have hordered : (Outline.of v schema).Ordered := Outline.ordered_of hv hschema
  have houtline : Outline.of w schema = .of v schema :=
    Outline.of_store hv hsite hleaf hnew hstore
  have hafter : (Outline.of w schema).Ordered := houtline ▸ hordered
  rw [rows_make hordered, rows_make hafter, houtline]
  cases hroot : Outline.of v schema with
  | leaf kind =>
    rw [hroot] at hsite
    exact absurd hsite List.not_mem_nil
  | group root =>
    rw [hroot] at hsite hordered
    rw [rootSites_store hordered hsite hleaf hstore, List.map_map, List.forall₂_map_left_iff,
      List.forall₂_map_right_iff, List.forall₂_same]
    intro other hother
    have hfault := fault?_on_store hordered hsite hleaf hother hstore
    refine ⟨sameForm_rowAt_on hfault _ _, fun hpath => ?_⟩
    rw [path_rowAt] at hpath
    have hshown : other.outline.isGroup = true ∨ w.get? other.path = other.held := by
      rcases store_cases hordered hsite hleaf hother hstore with
        rfl | ⟨inside, hgroup, -⟩ | hsame
      · exact absurd rfl hpath
      · exact .inl (by rw [hgroup]; rfl)
      · exact .inr hsame
    exact @value_rowAt_on _ _ ⟨mode, schema.isSome, settings⟩ ⟨mode, schema.isSome, changed⟩ rfl
      hshown _ _

end Plan

namespace Editor

open Outline

variable {editor : Editor} {site : Site} {kind : InputKind} {raw path : String} {keys : KeyPath}
  {mode : Mode} {new root : Value}

/-! ### The widget of a leaf -/

theorem kindAt_of_mem (hv : editor.value.Ordered)
    (hschema : ∀ s, editor.schema = some s → s.root.Ordered)
    (hsite : site ∈ rootSites editor.value (.of editor.value editor.schema))
    (hleaf : site.outline = .leaf kind) : editor.kindAt site.path = .ok kind := by
  unfold kindAt
  cases hcase : editor.schema with
  | none =>
    rw [hcase] at hsite
    rw [Plan.kind_eq_text_of_mem hv hsite hleaf]
  | some schema =>
    rw [hcase] at hsite
    obtain ⟨⟨parent, node, hparent, hnode, heq⟩, -⟩ :=
      (mem_rootSites_ofNode (hschema schema hcase)).1 hsite
    have hkind : (ofProperty node).kind? = some kind := by
      rw [← show site.outline = ofProperty node from congrArg Site.outline heq, hleaf]
      rfl
    have hgoverns : schema.nodeAt (structuralPath site.parent) = .ok parent :=
      Schema.nodeFrom_structuralPath_eq_ok.2 hparent
    have hclassify := classify_of_property? hnode site.parent
    rw [Plan.kind?_ofProperty] at hkind
    split at hkind
    · exact absurd hkind (Option.some_ne_none kind).symm
    · simp only [Site.path, Edit.splitLast_concat, Except.bind, hgoverns, hclassify, Except.map,
        Option.some.inj hkind]

theorem exists_site_of_leaf (hv : editor.value.Ordered)
    (hschema : ∀ s, editor.schema = some s → s.root.Ordered) {findings : List Finding} {row : Row}
    (hrow : row ∈ (editor.plan mode findings).rows) (hleaf : row.isContainer = false) :
    ∃ site ∈ rootSites editor.value (.of editor.value editor.schema), ∃ kind,
      site.outline = .leaf kind ∧ row.kind = some kind ∧ row.path = site.address := by
  obtain ⟨site, hsite, rfl⟩ := (Plan.mem_rows_make (Outline.ordered_of hv hschema)).1 hrow
  rw [Plan.isContainer_rowAt] at hleaf
  simp only [Plan.kind_rowAt, Plan.path_rowAt]
  cases houtline : site.outline with
  | leaf kind => exact ⟨site, hsite, kind, houtline, rfl, rfl⟩
  | group branches =>
    rw [houtline] at hleaf
    exact absurd hleaf (by simp [isGroup])

/-! ### The outcome of an input -/

theorem refused_input {fault : FieldError} (hidle : editor.slot = .idle)
    (hkeys : Dotted.decode path = .ok keys) (hkind : editor.kindAt keys = .ok kind)
    (hset : Edit.setValue editor.value keys raw kind = .error fault) :
    (editor.step (.setValue path raw)).answer = .error fault := by
  have hslot : editor.slot.ensureIdle = .ok () := KeySlot.ensureIdle_eq_ok.2 hidle
  have hdecode : decode path = .ok keys := decode_eq_ok.2 hkeys
  have hstart : (perform (.setValue path raw)).start ⟨editor, []⟩ =
      (.error fault, ⟨editor, []⟩) := by
    rw [perform, start_current_bind, Program.start_liftM_bind_of_ok hslot,
      Program.start_liftM_bind_of_ok hdecode, start_current_bind,
      Program.start_liftM_bind_of_ok hkind, start_current_bind,
      Program.start_liftM_bind_of_error hset]
  rw [step_of_start hstart]

/-- What can be typed in a leaf can be stored there. -/
theorem input_at_leaf (hv : editor.value.Ordered)
    (hschema : ∀ s, editor.schema = some s → s.root.Ordered) (hidle : editor.slot = .idle)
    (hsite : site ∈ rootSites editor.value (.of editor.value editor.schema))
    (hleaf : site.outline = .leaf kind) (hnew : coerce raw kind = .ok new) :
    ∃ w, editor.value.store site.path new = .ok w ∧
      editor.step (.setValue site.address raw) = editor.edited .idle w .done := by
  have hkind := kindAt_of_mem hv hschema hsite hleaf
  obtain ⟨w, hstore⟩ : ∃ w, editor.value.store site.path new = .ok w := by
    cases hroot : Outline.of editor.value editor.schema with
    | leaf kind =>
      rw [hroot] at hsite
      exact absurd hsite List.not_mem_nil
    | group root =>
      rw [hroot] at hsite
      exact exists_store hsite new
  have hset : Edit.setValue editor.value site.path raw kind = .ok w :=
    Edit.setValue_eq_ok.2 ⟨List.concat_ne_nil _ _, new, hnew, hstore⟩
  have hkeys : Dotted.decode site.address = .ok site.path := Dotted.decode_encode site.path
  exact ⟨w, hstore, (accepts_iff.1 (.setValue hidle hkeys hkind hset)).1⟩

/-! ### Rendering -/

theorem rows_rendered (hschema : ∀ s, editor.schema = some s → s.root.Ordered) (mode : Mode) :
    ∃ plan findings, (editor.rendered mode).answer = .ok (.plan plan) ∧
      plan.rows = (editor.plan mode findings).rows := by
  refine ⟨_, (editor.rendered mode).editor.findings, answer_rendered editor mode, ?_⟩
  rw [(rendered_eq editor mode).1]
  generalize (editor.grown mode).1.findings = findings
  rw [grown]
  split
  · next hgrows =>
    obtain ⟨rfl, hsome⟩ := hgrows
    obtain ⟨schema, hcase⟩ := Option.isSome_iff_exists.1 hsome
    rw [installPlan_edit hcase]
    cases hsame : (schema.fill editor.value).same editor.value with
    | true => rw [install_of_same hsame]
    | false =>
      rw [install_of_not_same hsame]
      simp only [plan, hcase, Plan.make_fill (hschema schema hcase)]
  · rfl

theorem rows_after_input (hgrown : editor.Grown mode) (hv : editor.value.Ordered)
    (hschema : ∀ s, editor.schema = some s → s.root.Ordered)
    (hsite : site ∈ rootSites editor.value (.of editor.value editor.schema))
    (hleaf : site.outline = .leaf kind) (hnew : new.isContainer = false)
    (hstore : editor.value.store site.path new = .ok root) :
    ∃ next, ((editor.edited .idle root .done).editor.step (.render mode)).answer =
        .ok (.plan next) ∧
      List.Forall₂ (fun before after => before.SameForm after ∧
        (before.path ≠ site.address → after.value = before.value))
        (editor.plan mode editor.findings).rows next.rows := by
  rw [step_render]
  cases hsame : root.same editor.value with
  | true =>
    have hinstall : ({ editor with slot := .idle }).install root =
        ({ editor with slot := .idle }, []) := install_of_same hsame
    have hagain : Grown { editor with slot := .idle } mode := hgrown
    rw [edited, hinstall, rendered_of_grown hagain]
    exact ⟨_, rfl, List.forall₂_same.2 fun row _ => ⟨.refl row, fun _ => rfl⟩⟩
  | false =>
    have hkept : (editor.edited .idle root .done).editor.schema = editor.schema :=
      edited_schema editor _ _ _
    have hgoverned : ∀ s, (editor.edited .idle root .done).editor.schema = some s →
        s.root.Ordered := hkept ▸ hschema
    obtain ⟨next, findings, hanswer, hrows⟩ := rows_rendered hgoverned mode
    refine ⟨next, hanswer, ?_⟩
    rw [hrows, plan, plan, edited_value_of_not_same hsame, hkept]
    exact Plan.sameForm_make_store hv hschema hsite hleaf hnew hstore _ _ _ _ _

/-- Every leaf that is rendered can be set right away, whatever is typed: it is refused just if the
text is no input of the kind that is shown, and stored at the path of the row otherwise. Rendered
once more, the form has the same rows, and each other row shows what it showed. -/
theorem rendered_leaf_takes_input (hv : editor.value.Ordered)
    (hschema : ∀ s, editor.schema = some s → s.root.Ordered) (hidle : editor.slot = .idle)
    {plan : Plan} {row : Row} (hplan : (editor.step (.render mode)).answer = .ok (.plan plan))
    (hrow : row ∈ plan.rows) (hleaf : row.isContainer = false) (raw : String) :
    let input := (editor.step (.render mode)).editor.step (.setValue row.path raw)
    ∃ kind path, row.kind = some kind ∧ Dotted.decode row.path = .ok path ∧
      (∀ fault, coerce raw kind = .error fault →
        fault = .invalidNumber raw ∧ input.answer = .error fault) ∧
      ∀ new, coerce raw kind = .ok new → input.answer = .ok .done ∧
        (∃ held, input.editor.value.get? path = some held ∧ new.same held = true) ∧
        ∃ next, (input.editor.step (.render mode)).answer = .ok (.plan next) ∧
          List.Forall₂ (fun before after => before.SameForm after ∧
            (before.path ≠ row.path → after.value = before.value)) plan.rows next.rows := by
  have hgrown : (editor.rendered mode).editor.Grown mode := by
    rw [(rendered_eq editor mode).1]
    exact grown_installed editor mode
  obtain ⟨hv, hschema, -⟩ : (editor.rendered mode).editor.InOrder :=
    inOrder_of_accepts (inOrder_of_idle hv hschema hidle) (.render mode) nofun
  have hidle : (editor.rendered mode).editor.slot = .idle :=
    (rendered_slot editor mode).trans hidle
  rw [step_render] at hplan ⊢
  rw [answer_rendered, Except.ok.injEq, Answer.plan.injEq] at hplan
  subst hplan
  generalize (editor.rendered mode).editor = shown at *
  obtain ⟨site, hsite, kind, hkind, hwidget, hpath⟩ := exists_site_of_leaf hv hschema hrow hleaf
  have hkeys : Dotted.decode site.address = .ok site.path := Dotted.decode_encode site.path
  rw [hpath]
  refine ⟨kind, site.path, hwidget, hkeys, fun fault hfault => ?_, fun new hnew => ?_⟩
  · have hset : Edit.setValue shown.value site.path raw kind = .error fault := by
      simp only [Edit.setValue, Site.path, Edit.splitLast_concat, Except.bind, hfault]
    have hkindAt := kindAt_of_mem hv hschema hsite hkind
    exact ⟨eq_invalidNumber_of_coerce hfault, refused_input hidle hkeys hkindAt hset⟩
  · obtain ⟨root, hstore, hinput⟩ := input_at_leaf hv hschema hidle hsite hkind hnew
    rw [hinput]
    exact ⟨rfl, exists_get?_edited shown _ _ (get?_storeFrom hstore),
      rows_after_input hgrown hv hschema hsite hkind (isContainer_of_coerce hnew) hstore⟩

/-- A number is typed in a leaf that rendering created, below a container that was `null`, and in
the same place a text that is no number. -/
theorem created_leaf_takes_number :
    let editor := Editor.new (.obj [("b", .null)]) (some .sample)
    (Value.obj [("b", .null)]).Ordered ∧ Schema.sample.root.Ordered ∧ editor.slot = .idle ∧
      ((editor.step (.render .edit)).editor.step (.setValue "b..c" "x")).answer =
        .error (.invalidNumber "x") ∧
      ∃ held, ((editor.step (.render .edit)).editor.step
          (.setValue "b..c" "7")).editor.value.get? ["b", "c"] = some held ∧
        (Value.num (.int 7)).same held = true := by
  intro editor
  have hv : (Value.obj [("b", .null)]).Ordered := ⟨by decide, trivial, trivial⟩
  have hschema : ∀ s, editor.schema = some s → s.root.Ordered := by
    rintro _ ⟨⟩
    exact Schema.ordered_sample
  let rendered := (editor.step (.render .edit)).editor
  let plan := rendered.plan .edit rendered.findings
  have hplan : (editor.step (.render .edit)).answer = .ok (.plan plan) := rfl
  have hrows : ("b..c", false, some .integer) ∈
      plan.rows.map fun row => (row.path, row.isContainer, row.kind) := by decide +kernel
  obtain ⟨row, hrow, hshown⟩ := List.mem_map.1 hrows
  obtain ⟨hpath, hleaf, hkind⟩ : row.path = "b..c" ∧ row.isContainer = false ∧
      row.kind = some .integer := by
    simpa only [Prod.mk.injEq] using hshown
  have htakes := fun raw => rendered_leaf_takes_input hv hschema rfl hplan hrow hleaf raw
  rw [hpath] at htakes
  refine ⟨hv, Schema.ordered_sample, rfl, ?_, ?_⟩
  · obtain ⟨kind, path, hshown, -, hrefused, -⟩ := htakes "x"
    obtain rfl : .integer = kind := Option.some.inj (hkind.symm.trans hshown)
    have hcoerce : coerce "x" .integer = .error (.invalidNumber "x") := rfl
    exact (hrefused _ hcoerce).2
  · obtain ⟨kind, path, hshown, hkeys, -, htaken⟩ := htakes "7"
    obtain rfl : .integer = kind := Option.some.inj (hkind.symm.trans hshown)
    obtain rfl : ["b", "c"] = path := Except.ok.inj hkeys
    have hcoerce : coerce "7" .integer = .ok (.num (.int 7)) := rfl
    exact (htaken _ hcoerce).2.1

end Editor

end FormTree
