import FormTree.Proofs.Form.Building
import FormTree.Proofs.Form.Sites

/-!
# The rows of a plan

A plan has one row for each site of the outline, drawn from what the value had there as it was
given. Planning for editing changes the value as it goes, but what it opens for one branch, no later
branch looks at, as the keys of an outline are distinct; and what it opens at a site can be told
from what was held there (`Frame.shown`).

`rows_make`, `errors_make` and `mismatches_make` describe a whole plan in this way: each row has the
messages that concern it, the findings that concern no row are the errors, and each mismatch is one
of a site.
-/

namespace FormTree

open Value Child

attribute [ext] Plan

/-- The mismatch of a container below which nothing is drawn. -/
def Outline.Site.mismatch? (site : Outline.Site) : Option Mismatch :=
  site.fault?.map (Plan.mismatch site.path)

/-- The widget of a leaf. -/
def Outline.kind? : Outline → Option InputKind
  | .leaf kind => some kind
  | .group _ => none

namespace Plan

open Outline

variable {frame : Frame} {v w : Value} {path : KeyPath} {key : String} {required : Bool}
  {branches : List Branch} {desk : Desk} {held : Option Value} {findings : Projection}
  {sites others : List Site} {drawn next : Stretch}

/-! ### Rows and their sites -/

/-- What a row shows of what is held: with building, what building makes of it. -/
def Frame.shown (frame : Frame) (container : Bool) (held : Option Value) : Option Value :=
  if frame.builds then some (opened container held) else held

/-- The row that is drawn at a site. -/
def rowAt (frame : Frame) (site : Site) (errors : List String) : Row :=
  match site.outline with
  | .leaf kind =>
    let shown := frame.shown false site.held
    { key := site.key, path := site.address, depth := site.path.length - 1,
      isContainer := false, kind := some kind, required := site.required, value := shown,
      display := (shown.map fun x => display x kind frame.reading frame.settings).getD "",
      keyEditable := frame.keyEditable, errors, mismatch := none }
  | .group _ => groupRow frame site.path site.key site.required errors site.fault?

@[simp] theorem path_rowAt (frame : Frame) (site : Site) (errors : List String) :
    (rowAt frame site errors).path = site.address := by
  rw [rowAt]
  split <;> rfl

@[simp] theorem errors_rowAt (frame : Frame) (site : Site) (errors : List String) :
    (rowAt frame site errors).errors = errors := by
  rw [rowAt]
  split <;> rfl

@[simp] theorem key_rowAt (frame : Frame) (site : Site) (errors : List String) :
    (rowAt frame site errors).key = site.key := by
  rw [rowAt]
  split <;> rfl

@[simp] theorem depth_rowAt (frame : Frame) (site : Site) (errors : List String) :
    (rowAt frame site errors).depth = site.path.length - 1 := by
  rw [rowAt]
  split <;> rfl

@[simp] theorem required_rowAt (frame : Frame) (site : Site) (errors : List String) :
    (rowAt frame site errors).required = site.required := by
  rw [rowAt]
  split <;> rfl

@[simp] theorem isContainer_rowAt (frame : Frame) (site : Site) (errors : List String) :
    (rowAt frame site errors).isContainer = site.outline.isGroup := by
  rw [rowAt]
  split <;> simp only [*] <;> rfl

@[simp] theorem kind_rowAt (frame : Frame) (site : Site) (errors : List String) :
    (rowAt frame site errors).kind = site.outline.kind? := by
  rw [rowAt]
  split <;> simp only [*] <;> rfl

@[simp] theorem value_rowAt (frame : Frame) (site : Site) (errors : List String) :
    (rowAt frame site errors).value =
      if site.outline.isGroup then none else frame.shown false site.held := by
  rw [rowAt]
  split <;> simp only [*] <;> rfl

@[simp] theorem keyEditable_rowAt (frame : Frame) (site : Site) (errors : List String) :
    (rowAt frame site errors).keyEditable = frame.keyEditable := by
  rw [rowAt]
  split <;> rfl

@[simp] theorem mismatch_rowAt (frame : Frame) (site : Site) (errors : List String) :
    (rowAt frame site errors).mismatch = site.fault?.map FieldError.message := by
  rw [rowAt]
  split
  · next hleaf => simp only [Site.fault?, hleaf, Option.map_none]
  · rfl

theorem leafRow_eq {parent : KeyPath} (kind : InputKind)
    (h : v.get? (parent ++ [key]) = frame.shown false held) (errors : List String) :
    leafRow frame (parent ++ [key]) key required kind v errors =
      rowAt frame ⟨parent, key, required, .leaf kind, held⟩ errors := by
  simp only [leafRow, rowAt, h]
  rfl

theorem objectionTo?_shown (frame : Frame) (held : Option Value) (declared : List String)
    (path : KeyPath) :
    objectionTo? (frame.shown true held) declared path = objectionTo? held declared path := by
  rw [Frame.shown]
  split
  · exact objectionTo?_opened held declared path
  · rfl

theorem member?_shown (frame : Frame) (held : Option Value) (key : String) :
    (frame.shown true held).bind (·.member? key) = held.bind (·.member? key) := by
  rw [Frame.shown]
  split
  · exact member?_opened true held key
  · rfl

/-- A stretch is drawn from sites: row by row, with the messages that are still there. -/
structure Draws (frame : Frame) (sites : List Site) (findings : Projection) (drawn : Stretch) :
    Prop where
  rows : drawn.rows =
    List.zipWith (rowAt frame) sites (findings.takeAll (sites.map Site.address)).1
  mismatches : drawn.mismatches = sites.filterMap Site.mismatch?
  findings : drawn.desk.findings = (findings.takeAll (sites.map Site.address)).2

theorem draws_nil (frame : Frame) (desk : Desk) : Draws frame [] desk.findings ⟨[], [], desk⟩ :=
  ⟨rfl, rfl, rfl⟩

theorem draws_singleton (frame : Frame) (site : Site) (findings : Projection) (v : Value) :
    Draws frame [site] findings ⟨[rowAt frame site (findings.take site.address).1],
      site.mismatch?.toList, ⟨v, (findings.take site.address).2⟩⟩ := by
  refine ⟨rfl, ?_, rfl⟩
  cases h : site.mismatch? <;> simp [h]

theorem draws_group {fault? : Option FieldError}
    (hfault : objectionTo? held (keys branches) (path ++ [key]) = fault?)
    (findings : Projection) (v : Value) :
    Draws frame [⟨path, key, required, .group branches, held⟩] findings
      ⟨[groupRow frame (path ++ [key]) key required
          (findings.take (Dotted.encode (path ++ [key]))).1 fault?],
        (fault?.map (mismatch (path ++ [key]))).toList,
        ⟨v, (findings.take (Dotted.encode (path ++ [key]))).2⟩⟩ := by
  subst hfault
  exact draws_singleton frame ⟨path, key, required, .group branches, held⟩ findings v

theorem Draws.append (hfirst : Draws frame sites findings drawn)
    (hnext : Draws frame others drawn.desk.findings next) :
    Draws frame (sites ++ others) findings
      ⟨drawn.rows ++ next.rows, drawn.mismatches ++ next.mismatches, next.desk⟩ := by
  obtain ⟨hrows, hmismatches, hfindings⟩ := hfirst
  obtain ⟨hnextrows, hnextmismatches, hnextfindings⟩ := hnext
  rw [hfindings] at hnextrows hnextfindings
  have htake := findings.takeAll_append (sites.map Site.address) (others.map Site.address)
  have hlength : sites.length = (findings.takeAll (sites.map Site.address)).1.length := by
    rw [Projection.length_takeAll, List.length_map]
  refine ⟨?_, ?_, ?_⟩
  · rw [List.map_append, htake, List.zipWith_append hlength, hrows, hnextrows]
  · rw [List.filterMap_append, hmismatches, hnextmismatches]
  · rw [List.map_append, htake, hnextfindings]

/-! ### The walk draws the sites -/

/-- Where building goes on, there is a mapping to build in. -/
def Frame.Ready (frame : Frame) (v : Value) (path : KeyPath) : Prop :=
  frame.builds = true → ∃ members, v.get? path = some (.obj members)

/-- Whether rows are drawn below a node can be told from what was held there. -/
theorem objection?_of_shown (hshown : w.get? path = frame.shown true held)
    (declared : List String) : objection? w declared path = objectionTo? held declared path := by
  rw [objection?_eq, hshown, objectionTo?_shown]

theorem ready_of_shown {declared : List String} (hshown : w.get? path = frame.shown true held)
    (hadmits : Admits declared held) : frame.Ready w path := by
  intro hbuilds
  obtain ⟨members, hmembers⟩ := hadmits.exists_members
  exact ⟨members, by rw [hshown, Frame.shown, if_pos hbuilds, hmembers]⟩

theorem sitesBelow_of_shown (hshown : w.get? path = frame.shown true held) :
    sitesBelow path branches (w.get? path) = sitesBelow path branches held := by
  rw [hshown]
  exact sitesBelow_congr path fun key _ => member?_shown frame held key

theorem prepare_of_ready (hready : frame.Ready v path) (container : Bool) (key : String) :
    ∃ w made, prepare frame v (path ++ [key]) container = (w, .ok made) ∧
      w.get? (path ++ [key]) = frame.shown container (v.get? (path ++ [key])) := by
  cases hbuilds : frame.builds with
  | false =>
    refine ⟨v, false, prepare_of_not_builds hbuilds container, ?_⟩
    rw [Frame.shown, hbuilds]
    rfl
  | true =>
    obtain ⟨members, hmembers⟩ := hready hbuilds
    obtain ⟨w, made, hprepare, hreplace⟩ := prepare_concat hbuilds hmembers container key
    refine ⟨w, made, hprepare, ?_⟩
    have hbefore : v.get? (path ++ [key]) = Members.find? key members :=
      get?_concat_replace? (replace?_get? hmembers) key
    rw [Frame.shown, if_pos hbuilds, get?_concat_replace? hreplace, Members.find?_put_self, hbefore]

/-- A stretch of one branch leaves the mapping it is drawn below ready for the next, and everything
that is held there at other keys. -/
theorem ready_branchStretch (hready : frame.Ready desk.value path) (outline : Outline) :
    let after := (branchStretch frame (path ++ [key]) key required outline desk).desk.value
    frame.Ready after path ∧ ∀ other, other ≠ key →
      (after.get? path).bind (·.member? other) = (desk.value.get? path).bind (·.member? other) := by
  cases hbuilds : frame.builds with
  | false =>
    rw [value_branchStretch_of_not_builds hbuilds]
    exact ⟨hready, fun other _ => rfl⟩
  | true =>
    obtain ⟨members, hmembers⟩ := hready hbuilds
    have hreplace := value_branchStretch hbuilds outline path key required desk hmembers
    have hafter := get?_replace? hreplace
    refine ⟨fun _ => ⟨_, hafter⟩, fun other hother => ?_⟩
    rw [hafter, hmembers, Option.bind_some, Option.bind_some, member?_obj, member?_obj,
      Members.find?_put_of_ne _ _ hother]

mutual

theorem draws_branchStretch : (outline : Outline) → (path : KeyPath) → (key : String) →
    (required : Bool) → (desk : Desk) → outline.Ordered → frame.Ready desk.value path →
    Draws frame (outline.sites path key required (desk.value.get? (path ++ [key]))) desk.findings
      (branchStretch frame (path ++ [key]) key required outline desk)
  | .leaf kind, path, key, required, desk, _, hready => by
    obtain ⟨w, made, hprepare, hshown⟩ := prepare_of_ready hready false key
    rw [branchStretch_leaf hprepare, leafRow_eq kind hshown, Outline.sites]
    exact draws_singleton frame ⟨path, key, required, .leaf kind, _⟩ desk.findings w
  | .group branches, path, key, required, desk, hordered, hready => by
    obtain ⟨w, made, hprepare, hshown⟩ := prepare_of_ready hready true key
    generalize hheld : desk.value.get? (path ++ [key]) = held at hshown
    have hobjection := objection?_of_shown hshown (keys branches)
    cases hfault : objectionTo? held (keys branches) (path ++ [key]) with
    | some fault =>
      have hnot : ¬ Admits (keys branches) held := not_admits_of_objectionTo? hfault
      rw [branchStretch_group_of_fault hprepare (hobjection.trans hfault), Outline.sites,
        if_neg hnot]
      exact draws_group hfault desk.findings w
    | none =>
      have hadmits := objectionTo?_eq_none_iff.1 hfault
      have hbelow : frame.Ready w (path ++ [key]) := ready_of_shown hshown hadmits
      have hdraws := draws_stretch branches (path ++ [key])
        ⟨w, (desk.findings.take (Dotted.encode (path ++ [key]))).2⟩ hordered hbelow
      rw [branchStretch_group_of_admits hprepare (hobjection.trans hfault), Outline.sites,
        if_pos hadmits, ← sitesBelow_of_shown hshown]
      exact (draws_group hfault desk.findings w).append hdraws

theorem draws_stretch : (branches : List Branch) → (path : KeyPath) → (desk : Desk) →
    OrderedBelow branches → frame.Ready desk.value path →
    Draws frame (sitesBelow path branches (desk.value.get? path)) desk.findings
      (stretch frame path branches desk)
  | [], path, desk, _, _ => draws_nil frame desk
  | (key, required, outline) :: rest, path, desk, hordered, hready => by
    obtain ⟨hless, houtline, hrest⟩ := hordered
    obtain ⟨hstill, hothers⟩ := @ready_branchStretch frame path key required desk hready outline
    have hfirst := draws_branchStretch outline path key required desk houtline hready
    have hnext := draws_stretch rest path _ hrest hstill
    have hsites := sitesBelow_congr path fun other hother =>
      hothers other fun heq => String.lt_irrefl _ (heq ▸ hless other hother)
    rw [hsites] at hnext
    rw [get?_concat] at hfirst
    rw [sitesBelow, stretch]
    exact hfirst.append hnext

end

/-! ### The whole form -/

/-- The mismatch of a root below which nothing is drawn. -/
def rootMismatch? (v : Value) : Outline → Option Mismatch
  | .leaf _ => none
  | .group branches => (objectionTo? (some v) (keys branches) []).map (mismatch [])

theorem prepare_root_shown (frame : Frame) (v : Value) :
    ∃ w made, prepare frame v [] true = (w, .ok made) ∧
      w.get? [] = frame.shown true (some v) := by
  obtain ⟨made, hprepare⟩ := prepare_root frame v
  refine ⟨_, made, hprepare, ?_⟩
  rw [Frame.shown]
  split <;> rfl

theorem draws_rootStretch (outline : Outline) (desk : Desk) (hordered : outline.Ordered) :
    let whole := rootStretch frame outline desk
    ∃ mismatches, Draws frame (rootSites desk.value outline) desk.findings
        ⟨whole.rows, mismatches, whole.desk⟩ ∧
      whole.mismatches = (rootMismatch? desk.value outline).toList ++ mismatches := by
  cases outline with
  | leaf kind => exact ⟨[], draws_nil frame desk, rfl⟩
  | group branches =>
    obtain ⟨w, made, hprepare, hshown⟩ := prepare_root_shown frame desk.value
    have hobjection := objection?_of_shown hshown (keys branches)
    cases hfault : objectionTo? (some desk.value) (keys branches) [] with
    | some fault =>
      have hnot : ¬ Admits (keys branches) (some desk.value) := not_admits_of_objectionTo? hfault
      rw [rootStretch_group_of_fault hprepare (hobjection.trans hfault), rootSites, if_neg hnot,
        rootMismatch?, hfault]
      exact ⟨[], draws_nil frame { desk with value := w }, rfl⟩
    | none =>
      have hadmits := objectionTo?_eq_none_iff.1 hfault
      have hready : frame.Ready w [] := ready_of_shown hshown hadmits
      have hdraws := draws_stretch branches [] { desk with value := w } hordered hready
      rw [rootStretch_group_of_admits hprepare (hobjection.trans hfault), rootSites,
        if_pos hadmits, rootMismatch?, hfault, ← sitesBelow_of_shown hshown]
      exact ⟨_, hdraws, rfl⟩

end Plan

namespace Plan

open Outline

variable {v : Value} {schema : Option Schema}

/-- One row for each site, with the messages that concern it. -/
theorem rows_make (hordered : (Outline.of v schema).Ordered) (mode : Mode)
    (findings : List Finding) (settings : Settings) :
    (make v schema mode findings settings).rows =
      (rootSites v (.of v schema)).map fun site =>
        rowAt ⟨mode, schema.isSome, settings⟩ site
          ((findingsOn site.address findings).map Finding.message) := by
  obtain ⟨mismatches, hdraws, -⟩ :=
    @draws_rootStretch ⟨mode, schema.isSome, settings⟩ _ ⟨v, .ofFindings findings⟩ hordered
  have hnodup := (increasing_rootSites v hordered).nodup_addresses
  refine hdraws.rows.trans ?_
  rw [Projection.takeAll_fst hnodup, List.map_map, List.zipWith_map_right, List.zipWith_self]
  refine List.map_congr_left fun site _ => ?_
  rw [Function.comp_apply, Projection.group_ofFindings]

theorem mem_rows_make (hordered : (Outline.of v schema).Ordered) {mode : Mode}
    {findings : List Finding} {settings : Settings} {row : Row} :
    row ∈ (make v schema mode findings settings).rows ↔
      ∃ site ∈ rootSites v (.of v schema),
        rowAt ⟨mode, schema.isSome, settings⟩ site
          ((findingsOn site.address findings).map Finding.message) = row := by
  rw [rows_make hordered, List.mem_map]

theorem remaining_make (hordered : (Outline.of v schema).Ordered) (mode : Mode)
    (findings : List Finding) (settings : Settings) :
    (make v schema mode findings settings).errors =
      ((Projection.ofFindings findings).takeAll
        ((rootSites v (.of v schema)).map Site.address)).2.remaining := by
  obtain ⟨mismatches, hdraws, -⟩ :=
    @draws_rootStretch ⟨mode, schema.isSome, settings⟩ _ ⟨v, .ofFindings findings⟩ hordered
  exact congrArg Projection.remaining hdraws.findings

theorem errors_make (hordered : (Outline.of v schema).Ordered) (mode : Mode)
    (findings : List Finding) (settings : Settings) :
    (make v schema mode findings settings).errors.Perm
      (findings.filter fun finding =>
        ∀ site ∈ rootSites v (.of v schema), ¬ finding.Concerns site.address) := by
  have hremaining := Projection.remaining_takeAll findings
    ((rootSites v (.of v schema)).map Site.address)
  rw [← remaining_make hordered mode findings settings] at hremaining
  simp only [List.forall_mem_map] at hremaining
  exact hremaining

theorem mismatches_make (hordered : (Outline.of v schema).Ordered) (mode : Mode)
    (findings : List Finding) (settings : Settings) :
    (make v schema mode findings settings).mismatches =
      (rootMismatch? v (.of v schema)).toList ++
        (rootSites v (.of v schema)).filterMap Site.mismatch? := by
  obtain ⟨mismatches, hdraws, hmismatches⟩ :=
    @draws_rootStretch ⟨mode, schema.isSome, settings⟩ _ ⟨v, .ofFindings findings⟩ hordered
  refine hmismatches.trans ?_
  rw [show mismatches = _ from hdraws.mismatches]

theorem addresses_make (hordered : (Outline.of v schema).Ordered) (mode : Mode)
    (findings : List Finding) (settings : Settings) :
    (make v schema mode findings settings).rows.map Row.path =
      (rootSites v (.of v schema)).map Site.address := by
  rw [rows_make hordered, List.map_map]
  exact List.map_congr_left fun site _ => path_rowAt _ site _

theorem nodup_addresses_make (hordered : (Outline.of v schema).Ordered) (mode : Mode)
    (findings : List Finding) (settings : Settings) :
    ((make v schema mode findings settings).rows.map Row.path).Nodup := by
  rw [addresses_make hordered]
  exact (increasing_rootSites v hordered).nodup_addresses

end Plan

end FormTree
