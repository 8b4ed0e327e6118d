import FormTree.Proofs.Form.Layout

/-!
# Findings in a plan

A plan shows every finding it is made with, and shows it once: with the row that the finding
concerns, if there is one, and among the errors of the plan otherwise. This holds whatever the mode
is and however many subtrees were left out.
-/

namespace FormTree

namespace Plan

variable {v : Value} {schema : Option Schema} {plan : Plan} {findings : List Finding}
  {finding : Finding} {row : Row}

/-- A row has the messages of the findings that concern it, in their order. -/
theorem errors_of_mem_rows (hordered : (Outline.of v schema).Ordered) {mode : Mode}
    {settings : Settings} (hrow : row ∈ (make v schema mode findings settings).rows) :
    row.errors = (findingsOn row.path findings).map Finding.message := by
  obtain ⟨site, -, rfl⟩ := (mem_rows_make hordered).1 hrow
  rw [errors_rowAt, path_rowAt]

theorem errors_perm (hordered : (Outline.of v schema).Ordered) (mode : Mode)
    (findings : List Finding) (settings : Settings) :
    let plan := make v schema mode findings settings
    plan.errors.Perm
      (findings.filter fun finding => ∀ row ∈ plan.rows, ¬ finding.Concerns row.path) := by
  intro plan
  have hrows : ∀ finding : Finding, (∀ row ∈ plan.rows, ¬ finding.Concerns row.path) ↔
      ∀ site ∈ Outline.rootSites v (.of v schema), ¬ finding.Concerns site.address := by
    intro finding
    have hpaths : (∀ path ∈ plan.rows.map Row.path, ¬ finding.Concerns path) ↔
        ∀ path ∈ (Outline.rootSites v (.of v schema)).map Outline.Site.address,
          ¬ finding.Concerns path := by
      rw [addresses_make hordered]
    simpa only [List.forall_mem_map] using hpaths
  simp only [hrows]
  exact errors_make hordered mode findings settings

theorem perm_findingsOn_append (hnodup : (plan.rows.map Row.path).Nodup)
    (herrors : plan.errors.Perm
      (findings.filter fun finding => ∀ row ∈ plan.rows, ¬ finding.Concerns row.path)) :
    findings.Perm (plan.rows.flatMap (fun row => findingsOn row.path findings) ++ plan.errors) := by
  have hpaths : plan.errors.Perm (findings.filter fun finding =>
      ∀ path ∈ plan.rows.map Row.path, ¬ finding.Concerns path) := by
    simpa only [List.forall_mem_map] using herrors
  have hwhole := Projection.perm_findingsOn_append hnodup hpaths
  rwa [List.flatMap_map] at hwhole

theorem existsUnique_row (hnodup : (plan.rows.map Row.path).Nodup)
    (herrors : row.errors = (findingsOn row.path findings).map Finding.message)
    (hfinding : finding ∈ findings) (hrow : row ∈ plan.rows)
    (hconcerns : finding.Concerns row.path) :
    ∃! row, row ∈ plan.rows ∧ finding.Concerns row.path ∧ finding.message ∈ row.errors := by
  have hon : finding ∈ findingsOn row.path findings :=
    List.mem_filter.2 ⟨hfinding, decide_eq_true hconcerns⟩
  have hmessage : finding.message ∈ row.errors := by
    rw [herrors]
    exact List.mem_map_of_mem hon
  refine ⟨row, ⟨hrow, hconcerns, hmessage⟩, ?_⟩
  rintro other ⟨hother, hconcernsOther, -⟩
  have hpath : other.path = row.path := hconcernsOther.unique hconcerns
  exact List.inj_on_of_nodup_map hnodup hother hrow hpath

/-- Every finding ends in one place. The findings are, but for their order, those shown row by row
and the errors of the plan; each row shows what concerns it, in order. -/
theorem every_finding_is_shown_once (hv : v.Ordered)
    (hschema : ∀ s, schema = some s → s.root.Ordered) (mode : Mode) (findings : List Finding)
    (settings : Settings) :
    let plan := make v schema mode findings settings
    (plan.rows.map Row.path).Nodup ∧
      (∀ row ∈ plan.rows, row.errors =
        (findings.filter fun finding => finding.Concerns row.path).map Finding.message) ∧
      plan.errors.Perm
        (findings.filter fun finding => ∀ row ∈ plan.rows, ¬ finding.Concerns row.path) ∧
      findings.Perm
        (plan.rows.flatMap (fun row => findings.filter fun finding => finding.Concerns row.path) ++
          plan.errors) ∧
      ∀ finding ∈ findings,
        (∃! row, row ∈ plan.rows ∧ finding.Concerns row.path ∧ finding.message ∈ row.errors) ∧
            finding ∉ plan.errors ∨
          (∀ row ∈ plan.rows, ¬ finding.Concerns row.path) ∧ finding ∈ plan.errors := by
  intro plan
  have hordered : (Outline.of v schema).Ordered := Outline.ordered_of hv hschema
  have hnodup : (plan.rows.map Row.path).Nodup :=
    nodup_addresses_make hordered mode findings settings
  have hrows : ∀ row ∈ plan.rows,
      row.errors = (findingsOn row.path findings).map Finding.message :=
    fun row hrow => errors_of_mem_rows hordered hrow
  have herrors := errors_perm hordered mode findings settings
  have hwhole := perm_findingsOn_append hnodup herrors
  refine ⟨hnodup, hrows, herrors, hwhole, fun finding hfinding => ?_⟩
  have hrest : finding ∈ plan.errors ↔ ∀ row ∈ plan.rows, ¬ finding.Concerns row.path := by
    rw [herrors.mem_iff, List.mem_filter, decide_eq_true_eq]
    exact and_iff_right hfinding
  by_cases hnone : ∀ row ∈ plan.rows, ¬ finding.Concerns row.path
  · exact .inr ⟨hnone, hrest.2 hnone⟩
  · obtain ⟨row, hrow, hconcerns⟩ : ∃ row ∈ plan.rows, finding.Concerns row.path := by
      simpa using hnone
    exact .inl ⟨existsUnique_row hnodup (hrows row hrow) hfinding hrow hconcerns, mt hrest.1 hnone⟩

theorem finding_about_the_root_is_an_error :
    (Value.obj [("a", .str "x")]).Ordered ∧ Schema.sample.root.Ordered ∧
      (make (.obj [("a", .str "x")]) (some .sample) .edit
          [⟨"/properties/a", "too short", none⟩, ⟨"", "incomplete", none⟩,
            ⟨"/properties/b/properties/c", "missing", none⟩] .standard).errors.Perm
        [⟨"", "incomplete", none⟩] := by
  have hv : (Value.obj [("a", .str "x")]).Ordered := ⟨by decide, trivial, trivial⟩
  have hschema : ∀ s, some Schema.sample = some s → s.root.Ordered := by
    rintro _ ⟨⟩
    exact Schema.ordered_sample
  obtain ⟨-, -, herrors, -⟩ := every_finding_is_shown_once hv hschema .edit
    [⟨"/properties/a", "too short", none⟩, ⟨"", "incomplete", none⟩,
      ⟨"/properties/b/properties/c", "missing", none⟩] .standard
  exact ⟨hv, Schema.ordered_sample, herrors.trans (.of_eq rfl)⟩

end Plan

end FormTree
