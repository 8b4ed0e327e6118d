import FormTree.Proofs.Form.Filled
import FormTree.Proofs.Form.Rows

/-!
# What planning for editing creates

Planning for editing under a schema leaves the filled value (`materialized_getD`). What was there is
still there, apart from `null`s that became mappings; what is new stands at the path of a row; and
every row has a node, with all declared keys below a container that could be opened.
-/

namespace FormTree

open Value Child

/-- There is a mapping at the path, with exactly the declared keys. -/
def Value.HasExactly (v : Value) (path : KeyPath) (declared : List String) : Prop :=
  ∃ members, v.get? path = some (.obj members) ∧
    ∀ key, key ∈ Members.keys members ↔ key ∈ declared

namespace Plan

open Outline

variable {v x : Value} {schema : Schema} {path : KeyPath} {site : Site}
  {findings : List Finding} {settings : Settings}

theorem materialized_getD (v : Value) (schema : Schema) (findings : List Finding)
    (settings : Settings) :
    (make v (some schema) .edit findings settings).materialized.getD v = schema.fill v := by
  rw [materialized_edit]
  split
  · next hsame => exact (fill_eq_of_same hsame).symm
  · rfl

/-! ### Where mappings are wanted -/

theorem opens_site_iff (hschema : schema.root.Ordered)
    (hsite : site ∈ rootSites v (.group (ofNode schema.root))) :
    (make v (some schema) .edit findings settings).Opens site.path ↔
      site.outline.isGroup = true := by
  have hordered : (Outline.of v (some schema)).Ordered := orderedBelow_ofNode schema.root hschema
  have hne : site.path ≠ [] := List.concat_ne_nil _ _
  rw [opens_iff hschema, or_iff_right hne]
  constructor
  · rintro ⟨other, hother, hpath, hgroup⟩
    rwa [eq_of_path_eq hordered hother hsite hpath] at hgroup
  · exact fun hgroup => ⟨site, hsite, rfl, hgroup⟩

/-! ### The nodes of the filled value -/

/-- A path is that of the root or of a site, or filling changes nothing there. -/
theorem get?_fill_cases (hschema : schema.root.Ordered) (v : Value) (path : KeyPath) :
    path = [] ∨
      (∃ site ∈ rootSites v (.group (ofNode schema.root)), site.path = path ∧
        v.get? path = site.held ∧
        (schema.fill v).get? path = some (fill site.outline site.held)) ∨
      path ≠ [] ∧ path ∉ (rootSites v (.group (ofNode schema.root))).map Site.path ∧
        (schema.fill v).get? path = v.get? path := by
  have hordered : OrderedBelow (ofNode schema.root) := orderedBelow_ofNode schema.root hschema
  by_cases hroot : path = []
  · exact .inl hroot
  by_cases hpath : path ∈ (rootSites v (.group (ofNode schema.root))).map Site.path
  · obtain ⟨site, hsite, rfl⟩ := List.mem_map.1 hpath
    obtain ⟨-, -, -, hheld⟩ := mem_rootSites.1 hsite
    exact .inr (.inl ⟨site, hsite, rfl, hheld.symm, get?_fill_of_mem hordered hsite⟩)
  · exact .inr (.inr ⟨hroot, hpath, get?_fill_of_not_mem hordered v hroot hpath⟩)

theorem get?_fill_of_null (hschema : schema.root.Ordered) (findings : List Finding)
    (settings : Settings) (hnull : v.get? path = some .null) :
    let plan := make v (some schema) .edit findings settings
    (plan.Opens path → ∃ members, (schema.fill v).get? path = some (.obj members)) ∧
      (¬ plan.Opens path → (schema.fill v).get? path = some .null) := by
  intro plan
  rcases get?_fill_cases hschema v path with
    rfl | ⟨site, hsite, rfl, hheld, hfilled⟩ | ⟨hroot, hpath, hsame⟩
  · rw [get?_nil, Option.some.injEq] at hnull
    subst hnull
    have hvacant : (some Value.null).getD .null = .null := rfl
    obtain ⟨members, hmembers⟩ :=
      (fill_of_vacant (.group (ofNode schema.root)) hvacant).1 rfl
    exact ⟨fun _ => ⟨members, congrArg some hmembers⟩, fun hnot => absurd (.inl rfl) hnot⟩
  · have hvacant : site.held.getD .null = .null := by rw [← hheld, hnull]; rfl
    obtain ⟨hgroup, hleaf⟩ := fill_of_vacant site.outline hvacant
    rw [hfilled, opens_site_iff hschema hsite]
    refine ⟨fun hopens => ?_, fun hnot => ?_⟩
    · obtain ⟨members, hmembers⟩ := hgroup hopens
      exact ⟨members, congrArg some hmembers⟩
    · exact congrArg some (hleaf (Bool.eq_false_iff.2 hnot))
  · refine ⟨fun hopens => ?_, fun _ => hsame.trans hnull⟩
    obtain ⟨site, hsite, rfl, -⟩ := ((opens_iff hschema).1 hopens).resolve_left hroot
    exact absurd (List.mem_map_of_mem hsite) hpath

theorem exists_row_of_new (hschema : schema.root.Ordered) (findings : List Finding)
    (settings : Settings) (hbefore : v.get? path = none)
    (hafter : (schema.fill v).get? path = some x) :
    ∃ row ∈ (make v (some schema) .edit findings settings).rows, row.StandsAt path ∧
      (row.isContainer = true → ∃ members, x = .obj members) ∧
      (row.isContainer = false → x = .null) := by
  rcases get?_fill_cases hschema v path with
    rfl | ⟨site, hsite, rfl, hheld, hfilled⟩ | ⟨-, -, hsame⟩
  · exact absurd hbefore (Option.some_ne_none v)
  · have hvacant : site.held.getD .null = .null := by rw [← hheld, hbefore]; rfl
    obtain rfl : fill site.outline site.held = x := Option.some.inj (hfilled.symm.trans hafter)
    obtain ⟨row, hrow, hpath, hcontainer⟩ := exists_row_of_mem hschema hsite .edit findings settings
    have hnew := fill_of_vacant site.outline hvacant
    rw [← hcontainer] at hnew
    exact ⟨row, hrow, hpath, hnew⟩
  · rw [hsame, hbefore] at hafter
    exact absurd hafter.symm (Option.some_ne_none x)

/-- A container that could be opened has all declared keys, and no others. -/
theorem hasExactly_of_admits {node : Value} (hnode : node.Ordered) {held : Option Value}
    (hadmits : Admits (keys (ofNode node)) held)
    (hfilled : (schema.fill v).get? path = some (fill (.group (ofNode node)) held)) :
    (schema.fill v).HasExactly path (Members.keys (SchemaNode.properties node)) := by
  obtain ⟨members, hmembers, hkeys⟩ :=
    exists_members_fill (orderedBelow_ofNode node hnode) hadmits
  rw [keys_ofNode] at hkeys
  exact ⟨members, hfilled.trans (congrArg some hmembers), hkeys⟩

theorem hasExactly_root (hschema : schema.root.Ordered)
    (h : ∀ mismatch ∈ (make v (some schema) .edit findings settings).mismatches,
      mismatch.path ≠ Dotted.encode []) :
    (schema.fill v).HasExactly [] (Members.keys (SchemaNode.properties schema.root)) := by
  have hordered : (Outline.of v (some schema)).Ordered := orderedBelow_ofNode schema.root hschema
  rw [mismatches_make hordered] at h
  cases hfault : objectionTo? (some v) (keys (ofNode schema.root)) [] with
  | none => exact hasExactly_of_admits hschema (objectionTo?_eq_none_iff.1 hfault) rfl
  | some fault =>
    have hmismatch : mismatch [] fault ∈
        (rootMismatch? v (.of v (some schema))).toList := by
      rw [Outline.of, rootMismatch?, hfault]
      exact List.mem_singleton_self _
    exact absurd rfl (h _ (List.mem_append_left _ hmismatch))

theorem hasExactly_site (hschema : schema.root.Ordered)
    (hsite : site ∈ rootSites v (.group (ofNode schema.root)))
    (hgroup : site.outline.isGroup = true) (hfault : site.fault? = none) :
    ∃ node, SchemaNode.descend? schema.root site.path = some node ∧
      (schema.fill v).HasExactly site.path (Members.keys (SchemaNode.properties node)) := by
  have hfilled := get?_fill_of_mem (orderedBelow_ofNode schema.root hschema) hsite
  obtain ⟨node, hdescend, hproperty⟩ := exists_node_of_mem hschema hsite
  have houtline : site.outline = .group (ofNode node) := by
    rw [hproperty, isGroup_ofProperty] at hgroup
    exact hproperty.trans (ofProperty_eq_group_iff.2 ⟨hgroup, rfl⟩)
  rw [Site.fault?, houtline] at hfault
  rw [houtline] at hfilled
  have hordered : node.Ordered := SchemaNode.ordered_of_descend? hschema hdescend
  exact ⟨node, hdescend,
    hasExactly_of_admits hordered (objectionTo?_eq_none_iff.1 hfault) hfilled⟩

/-- Planning for editing keeps what is there: values stay, mappings keep their keys, and a `null`
becomes a mapping only where one is wanted. What it adds stands at the path of a row, and every row
has a node in the end; a container that could be opened has the declared keys, and no others. -/
theorem materialization_is_conservative_and_complete (hschema : schema.root.Ordered) (v : Value)
    (findings : List Finding) (settings : Settings) :
    let plan := make v (some schema) .edit findings settings
    let filled := plan.materialized.getD v
    (v.GrowsTo filled ∧ ∀ path, v.get? path = some .null →
        (plan.Opens path → ∃ members, filled.get? path = some (.obj members)) ∧
          (¬ plan.Opens path → filled.get? path = some .null)) ∧
      (∀ path x, v.get? path = none → filled.get? path = some x →
        ∃ row ∈ plan.rows, row.StandsAt path ∧
          (row.isContainer = true → ∃ members, x = .obj members) ∧
          (row.isContainer = false → x = .null)) ∧
      (∀ row ∈ plan.rows, ∃ path, row.StandsAt path ∧ (filled.get? path).isSome = true ∧
        (row.isContainer = true → row.mismatch = none →
          ∃ node, SchemaNode.descend? schema.root path = some node ∧
            filled.HasExactly path (Members.keys (SchemaNode.properties node)))) ∧
      ((∀ mismatch ∈ plan.mismatches, mismatch.path ≠ Dotted.encode []) →
        filled.HasExactly [] (Members.keys (SchemaNode.properties schema.root))) := by
  intro plan filled
  rw [show filled = schema.fill v from materialized_getD v schema findings settings]
  refine ⟨⟨growsTo_fill _ v, fun path => get?_fill_of_null hschema findings settings⟩,
    fun path x => exists_row_of_new hschema findings settings, fun row hrow => ?_,
    hasExactly_root hschema⟩
  have hordered : (Outline.of v (some schema)).Ordered := orderedBelow_ofNode schema.root hschema
  obtain ⟨site, hsite, rfl⟩ := (mem_rows_make hordered).1 hrow
  have hfilled := get?_fill_of_mem (orderedBelow_ofNode schema.root hschema) hsite
  refine ⟨site.path, standsAt_rowAt _ _ _, ?_, fun hcontainer hmismatch => ?_⟩
  · rw [Schema.fill, hfilled]
    rfl
  · rw [isContainer_rowAt] at hcontainer
    rw [mismatch_rowAt, Option.map_eq_none_iff] at hmismatch
    exact hasExactly_site hschema hsite hcontainer hmismatch

/-- An array stays where a text is declared, and a `null` becomes a mapping with the declared
key. -/
theorem null_container_gets_its_keys :
    Schema.sample.root.Ordered ∧
      let plan := make (.obj [("a", .arr [.null]), ("b", .null)]) (some .sample) .edit [] .standard
      let filled := plan.materialized.getD (.obj [("a", .arr [.null]), ("b", .null)])
      filled.get? ["a"] = some (.arr [.null]) ∧ filled.HasExactly ["b"] ["c"] ∧
        ∃ row ∈ plan.rows, row.StandsAt ["b", "c"] ∧ row.isContainer = false := by
  have hwhole := materialization_is_conservative_and_complete Schema.ordered_sample
    (.obj [("a", .arr [.null]), ("b", .null)]) [] .standard
  obtain ⟨⟨hgrows, -⟩, hnew, hrows, -⟩ := hwhole
  refine ⟨Schema.ordered_sample, (hgrows ["a"]).2 _ rfl rfl rfl, ?_, ?_⟩
  · obtain ⟨path, hpath, -, hkeys⟩ := hrows _ (List.mem_cons_of_mem _ List.mem_cons_self)
    obtain rfl : path = ["b"] := hpath.unique ⟨rfl, rfl, rfl⟩
    obtain ⟨node, hnode, hexactly⟩ := hkeys rfl rfl
    obtain rfl := Option.some.inj hnode
    exact hexactly
  · obtain ⟨row, hrow, hpath, hcontainer, -⟩ := hnew ["b", "c"] .null rfl rfl
    refine ⟨row, hrow, hpath, Bool.eq_false_iff.2 fun hopens => ?_⟩
    obtain ⟨members, hmembers⟩ := hcontainer hopens
    exact absurd hmembers (by simp)

end Plan

end FormTree
