import FormTree.Proofs.Form.Walk

/-!
# Mismatches in a plan

What a plan reports to be left out can be read off its rows: there is one mismatch for each row that
is marked, in the order of the rows, and nothing stands below such a row. Only if nothing can be
drawn at all, as the root has no children, there is one mismatch without a row.

A mismatch is always that of a value with the schema. The walk of a form has other ways to fail
(`Plan.Walk`), but it takes none of them.
-/

namespace FormTree

open Value Child

namespace Outline

variable {v : Value} {schema : Option Schema} {root : List Branch} {outline : Outline}
  {site other : Site} {fault : FieldError}

/-! ### Faults at sites -/

theorem Site.exists_mismatch (hfault : site.fault? = some fault) :
    ∃ path key how, fault = .structuralMismatch path key how := by
  rw [Site.fault?] at hfault
  split at hfault
  · exact absurd hfault.symm (Option.some_ne_none fault)
  · exact exists_mismatch_of_objectionTo? hfault

theorem Site.isGroup_of_fault (hfault : site.fault? = some fault) :
    site.outline.isGroup = true := by
  rw [Site.fault?] at hfault
  split at hfault
  · exact absurd hfault.symm (Option.some_ne_none fault)
  · next houtline => rw [houtline, isGroup]

/-- There is no site below one with a fault. -/
theorem eq_of_fault (hordered : outline.Ordered) (hsite : site ∈ rootSites v outline)
    (hother : other ∈ rootSites v outline) (hfault : site.fault? = some fault)
    (hbelow : site.path <+: other.path) : other = site := by
  cases outline with
  | leaf kind => exact absurd hsite List.not_mem_nil
  | group root =>
    obtain ⟨rest, hpath⟩ := hbelow
    cases rest with
    | nil =>
      rw [List.append_nil] at hpath
      exact eq_of_path_eq hordered hother hsite hpath.symm
    | cons key rest =>
      obtain ⟨inside, houtline, hreached, -⟩ := group_of_below hordered hsite hother hpath.symm
      have hheld : site.held = v.get? site.path := by
        obtain ⟨-, -, -, hheld⟩ := mem_rootSites.1 hsite
        exact hheld
      rw [Site.fault?, houtline] at hfault
      have hadmits : Admits (keys inside) site.held := hheld ▸ hreached.admits
      exact absurd hadmits (not_admits_of_objectionTo? hfault)

end Outline

namespace Plan

open Outline

variable {v : Value} {schema : Option Schema} {outline : Outline} {missed : Mismatch} {row : Row}
  {mode : Mode} {findings : List Finding} {settings : Settings}

/-! ### Mismatches and rows -/

theorem mismatch?_eq_rowAt (frame : Frame) (site : Site) (errors : List String) :
    site.mismatch? = (rowAt frame site errors).mismatch.map
      (Mismatch.mk (rowAt frame site errors).path) := by
  rw [mismatch_rowAt, path_rowAt, Option.map_map]
  rfl

theorem filterMap_mismatch? (hordered : (Outline.of v schema).Ordered) (mode : Mode)
    (findings : List Finding) (settings : Settings) :
    (rootSites v (.of v schema)).filterMap Site.mismatch? =
      (make v schema mode findings settings).rows.filterMap fun row =>
        row.mismatch.map (Mismatch.mk row.path) := by
  rw [rows_make hordered, List.filterMap_map]
  exact List.filterMap_congr fun site _ => mismatch?_eq_rowAt _ site _

theorem of_rootMismatch? (h : rootMismatch? v (.of v schema) = some missed) :
    rootSites v (.of v schema) = [] ∧ ∃ fault, Child.list v schema [] = .error fault ∧
      (∃ path key how, fault = .structuralMismatch path key how) ∧
      missed = ⟨"", fault.message⟩ := by
  cases schema with
  | none =>
    rw [Outline.of, rootMismatch?_ofValue] at h
    exact absurd h.symm (Option.some_ne_none missed)
  | some schema =>
    rw [Outline.of, rootMismatch?, Option.map_eq_some_iff] at h
    obtain ⟨fault, hfault, rfl⟩ := h
    have hobjection : objection? v (Members.keys (SchemaNode.properties schema.root)) [] =
        some fault := by
      rw [← keys_ofNode]
      exact hfault
    have hroot : schema.nodeAt [] = .ok schema.root := rfl
    exact ⟨if_neg (not_admits_of_objectionTo? hfault), fault, list_eq_error hroot hobjection,
      exists_mismatch_of_objectionTo? hfault, rfl⟩

theorem isContainer_of_mismatch (hordered : (Outline.of v schema).Ordered)
    (hrow : row ∈ (make v schema mode findings settings).rows) (hmissed : row.mismatch ≠ none) :
    row.isContainer = true ∧ ∃ path, Dotted.decode row.path = .ok path ∧
      ∀ other ∈ (make v schema mode findings settings).rows, other ≠ row →
        ∃ below, Dotted.decode other.path = .ok below ∧ ¬ path <+: below := by
  obtain ⟨site, hsite, rfl⟩ := (mem_rows_make hordered).1 hrow
  obtain ⟨fault, hfault⟩ : ∃ fault, site.fault? = some fault := by
    rw [mismatch_rowAt, ne_eq, Option.map_eq_none_iff] at hmissed
    exact Option.ne_none_iff_exists'.1 hmissed
  refine ⟨(isContainer_rowAt _ site _).trans (Site.isGroup_of_fault hfault), site.path,
    (standsAt_rowAt _ site _).1, fun other hother hne => ?_⟩
  obtain ⟨next, hnext, rfl⟩ := (mem_rows_make hordered).1 hother
  refine ⟨next.path, (standsAt_rowAt _ next _).1, fun hbelow => hne ?_⟩
  rw [eq_of_fault hordered hsite hnext hfault hbelow]

/-- The mismatches of a plan are that of the root, which then has no rows, or those that its rows
are marked with; in the walk that makes the plan nothing else comes up. -/
theorem mismatches_are_consistent (hv : v.Ordered)
    (hschema : ∀ s, schema = some s → s.root.Ordered) (mode : Mode) (findings : List Finding)
    (settings : Settings) :
    let plan := make v schema mode findings settings
    (plan.rows.map Row.path).Nodup ∧
      (plan.rows = [] ∧ (∃ fault, Child.list v schema [] = .error fault ∧
            plan.mismatches = [⟨"", fault.message⟩]) ∨
          plan.mismatches = plan.rows.filterMap fun row =>
            row.mismatch.map fun message => ⟨row.path, message⟩) ∧
      (∀ row ∈ plan.rows, row.mismatch ≠ none →
        row.isContainer = true ∧ ∃ path, Dotted.decode row.path = .ok path ∧
          ∀ other ∈ plan.rows, other ≠ row →
            ∃ below, Dotted.decode other.path = .ok below ∧ ¬ path <+: below) ∧
      (∀ missed ∈ plan.mismatches, ∃ path key how,
        missed.message = (FieldError.structuralMismatch path key how).message) ∧
      (∃ faults, Walk v schema mode findings settings plan faults ∧
        (∀ fault ∈ faults, fault.IsMismatch) ∧
        ∀ other others, Walk v schema mode findings settings other others →
          other = plan ∧ others = faults) ∧
      (schema = none → plan.mismatches = []) := by
  have hordered : (Outline.of v schema).Ordered := Outline.ordered_of hv hschema
  have hmismatches := mismatches_make hordered mode findings settings
  intro plan
  obtain ⟨faults, hwalk, hfaults⟩ := walk_make hv hschema mode findings settings
  refine ⟨nodup_addresses_make hordered mode findings settings, ?_,
    fun row hrow hmissed => isContainer_of_mismatch hordered hrow hmissed, ?_,
    ⟨faults, hwalk, hfaults, fun other others hother => hother.unique hwalk⟩, ?_⟩
  · cases hroot : rootMismatch? v (.of v schema) with
    | none =>
      rw [hroot, Option.toList_none, List.nil_append,
        filterMap_mismatch? hordered mode findings settings] at hmismatches
      exact .inr hmismatches
    | some missed =>
      obtain ⟨hnone, fault, hlist, -, rfl⟩ := of_rootMismatch? hroot
      have hrows : plan.rows = [] := by
        rw [rows_make hordered, hnone, List.map_nil]
      rw [hroot, hnone] at hmismatches
      exact .inl ⟨hrows, fault, hlist, hmismatches⟩
  · intro missed hmissed
    rw [hmismatches, List.mem_append, Option.mem_toList, List.mem_filterMap] at hmissed
    rcases hmissed with hroot | ⟨site, -, hsite⟩
    · obtain ⟨-, fault, -, ⟨path, key, how, rfl⟩, rfl⟩ := of_rootMismatch? hroot
      exact ⟨path, key, how, rfl⟩
    · obtain ⟨fault, hfault, rfl⟩ := Option.map_eq_some_iff.1 hsite
      obtain ⟨path, key, how, rfl⟩ := Site.exists_mismatch hfault
      exact ⟨path, key, how, rfl⟩
  · rintro rfl
    obtain ⟨-, -, -, hnone, -⟩ := rows_without_schema hv mode findings settings
    exact hnone

/-- A scalar in place of an object is reported once, with its row, and the other rows are there. -/
theorem scalar_for_an_object_is_one_mismatch :
    (Value.obj [("b", .bool true)]).Ordered ∧ Schema.sample.root.Ordered ∧
      let plan := make (.obj [("b", .bool true)]) (some .sample) .edit [] .standard
      plan.rows.map Row.path = ["a", "b"] ∧
      plan.mismatches = [⟨"b", (FieldError.structuralMismatch "b" "b" .scalar).message⟩] ∧
      plan.mismatches = (plan.rows.filterMap fun row =>
        row.mismatch.map fun message => ⟨row.path, message⟩) ∧
      ∃ faults, Walk (.obj [("b", .bool true)]) (some .sample) .edit [] .standard plan faults ∧
        ∀ fault ∈ faults, fault.IsMismatch := by
  have hv : (Value.obj [("b", .bool true)]).Ordered := ⟨by decide, trivial, trivial⟩
  have hschema : ∀ s, some Schema.sample = some s → s.root.Ordered := by
    rintro _ ⟨⟩
    exact Schema.ordered_sample
  obtain ⟨-, hmismatches, -, -, ⟨faults, hwalk, hfaults, -⟩, -⟩ :=
    mismatches_are_consistent hv hschema .edit [] .standard
  refine ⟨hv, Schema.ordered_sample, rfl, rfl, ?_, faults, hwalk, hfaults⟩
  exact hmismatches.resolve_left fun hroot => absurd hroot.1 (List.cons_ne_nil _ _)

end Plan

end FormTree
