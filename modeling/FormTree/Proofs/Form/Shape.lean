import FormTree.Proofs.Form.Change
import FormTree.Proofs.Form.Rows
import FormTree.Proofs.Tree.Store

/-!
# Values of the declared shape

A value fits a schema if it has room for the declared keys wherever a mapping is declared. Those are
the values that are planned without a mismatch (`mismatches_make_eq_nil_iff`), and in their plans
the rows for containers stand at the declared mappings (`opens_iff_declaresMapping`).

What is set at a declared path finds mappings on its way and makes new ones where there is room for
them. So it keeps the shape of the value, unless it takes the place of a mapping itself: a path of
which the schema says that there is a container accepts a text.
-/

namespace FormTree

open Value Child

namespace Schema

variable {schema : Schema} {v w new : Value} {path above : KeyPath}

/-- A mapping is declared at the path: it leads through properties, and all nodes on it but the root
are objects. -/
def DeclaresMapping (schema : Schema) (path : KeyPath) : Prop :=
  ∀ above, above <+: path → ∃ node, SchemaNode.descend? schema.root above = some node ∧
    (above ≠ [] → SchemaNode.isObject node = true)

/-- The value has room wherever a mapping is declared. -/
def Fits (schema : Schema) (v : Value) : Prop :=
  ∀ path, schema.DeclaresMapping path → schema.OpensAt v path

theorem DeclaresMapping.of_prefix (h : schema.DeclaresMapping path) (habove : above <+: path) :
    schema.DeclaresMapping above :=
  fun other hother => h other (hother.trans habove)

theorem declaresMapping_nil (schema : Schema) : schema.DeclaresMapping [] := by
  intro above habove
  rw [List.prefix_nil.1 habove]
  exact ⟨schema.root, rfl, fun hne => absurd rfl hne⟩

theorem declaresMapping_of_opensAt (h : ∀ above, above <+: path → schema.OpensAt v above) :
    schema.DeclaresMapping path := by
  intro above habove
  obtain ⟨node, hnode, hobject, -⟩ := h above habove
  exact ⟨node, hnode, hobject⟩

theorem declaresMapping_concat_iff {key : String} : schema.DeclaresMapping (path ++ [key]) ↔
    schema.DeclaresMapping path ∧ ∃ node,
      SchemaNode.descend? schema.root (path ++ [key]) = some node ∧
        SchemaNode.isObject node = true := by
  constructor
  · intro h
    obtain ⟨node, hnode, hobject⟩ := h _ List.prefix_rfl
    exact ⟨h.of_prefix (List.prefix_append path [key]), node, hnode, hobject (by simp)⟩
  · rintro ⟨hpath, node, hnode, hobject⟩ above habove
    rcases List.prefix_concat_iff.1 habove with rfl | habove
    · exact ⟨node, hnode, fun _ => hobject⟩
    · exact hpath above habove

theorem OpensAt.congr (h : schema.OpensAt v path)
    (hroom : ∀ declared, Admits declared (v.get? path) → Admits declared (w.get? path)) :
    schema.OpensAt w path := by
  obtain ⟨node, hnode, hobject, hadmits⟩ := h
  exact ⟨node, hnode, hobject, hroom _ hadmits⟩

theorem fits_iff_of_same (h : v.same w = true) : schema.Fits v ↔ schema.Fits w := by
  simp only [Fits, OpensAt, admits_get?_of_same h]

/-! ### What is set in a value of the declared shape -/

/-- Above a declared path, what is set adds a declared key at most. -/
theorem OpensAt.of_store {key : String} {rest : KeyPath} (h : schema.OpensAt v above)
    (hdeclared : (SchemaNode.descend? schema.root (above ++ key :: rest)).isSome)
    (hstore : v.store (above ++ key :: rest) new = .ok w) : schema.OpensAt w above := by
  obtain ⟨node, hnode, hobject, hadmits⟩ := h
  obtain ⟨members, child, hopened, habove⟩ := get?_storeFrom_above hstore
  rw [← admits_opened, hopened, admits_obj_iff] at hadmits
  refine ⟨node, hnode, hobject, ?_⟩
  rw [habove, admits_obj_iff]
  intro other hother
  rcases (Members.mem_keys_put_iff child).1 hother with rfl | hold
  · rw [SchemaNode.descend?_append, hnode, Option.bind_some, SchemaNode.descend?] at hdeclared
    rw [SchemaNode.mem_keys_properties]
    exact Option.isSome_iff_exists.1 (Option.isSome_of_isSome_bind hdeclared)
  · exact hadmits other hold

/-- What is set keeps the shape, if it is `null` or stands where no mapping is declared. -/
theorem Fits.store (hfits : schema.Fits v)
    (hdeclared : (SchemaNode.descend? schema.root path).isSome) (hstore : v.store path new = .ok w)
    (hnew : new = .null ∨ ¬ schema.DeclaresMapping path) : schema.Fits w := by
  intro other hother
  have hopen : schema.OpensAt v other := hfits other hother
  by_cases hbelow : path <+: other
  · -- A mapping is declared at or below the path, so what is set is `null`.
    obtain ⟨below, rfl⟩ := hbelow
    have hmapping : schema.DeclaresMapping path := hother.of_prefix (List.prefix_append path below)
    obtain rfl := hnew.resolve_right (not_not.2 hmapping)
    refine hopen.congr fun declared _ => ?_
    rw [get?_storeFrom_append hstore]
    cases below with
    | nil => exact .inr (.inl rfl)
    | cons key rest => exact .inl rfl
  · by_cases habove : other <+: path
    · obtain ⟨tail, rfl⟩ := habove
      cases tail with
      | nil =>
        rw [List.append_nil] at hbelow
        exact absurd List.prefix_rfl hbelow
      | cons key rest => exact hopen.of_store hdeclared hstore
    · refine hopen.congr fun declared hadmits => ?_
      rwa [get?_storeFrom_of_apart hstore habove hbelow]

theorem eq_null_of_fits_store (hstore : v.store path new = .ok w) (hleaf : new.isContainer = false)
    (hmapping : schema.DeclaresMapping path) (hfits : schema.Fits w) : new = .null := by
  obtain ⟨node, -, -, hadmits⟩ := hfits path hmapping
  rw [get?_storeFrom hstore] at hadmits
  obtain hnone | hnull | ⟨members, hmembers, -⟩ := hadmits
  · exact absurd hnone (Option.some_ne_none new)
  · exact Option.some.inj hnull
  · rw [Option.some.inj hmembers] at hleaf
    exact absurd hleaf (by simp [Value.isContainer])

theorem Fits.store_iff (hfits : schema.Fits v)
    (hdeclared : (SchemaNode.descend? schema.root path).isSome)
    (hstore : v.store path new = .ok w) (hleaf : new.isContainer = false) :
    schema.Fits w ↔ new = .null ∨ ¬ schema.DeclaresMapping path := by
  refine ⟨fun hfitted => ?_, hfits.store hdeclared hstore⟩
  by_cases hmapping : schema.DeclaresMapping path
  · exact .inl (eq_null_of_fits_store hstore hleaf hmapping hfitted)
  · exact .inr hmapping

end Schema

namespace Plan

open Outline

variable {v : Value} {schema : Schema} {path : KeyPath} {mode : Mode} {findings : List Finding}
  {settings : Settings} {site : Site}

/-! ### Plans of values of the declared shape -/

theorem declaresMapping_of_mem (hschema : schema.root.Ordered)
    (hsite : site ∈ rootSites v (.group (ofNode schema.root)))
    (hgroup : site.outline.isGroup = true) : schema.DeclaresMapping site.path := by
  obtain ⟨node, hnode, houtline⟩ := exists_node_of_mem hschema hsite
  obtain ⟨-, hopen⟩ := (mem_rootSites_ofNode hschema).1 hsite
  rw [houtline, isGroup_ofProperty] at hgroup
  exact Schema.declaresMapping_concat_iff.2
    ⟨Schema.declaresMapping_of_opensAt hopen, node, hnode, hgroup⟩

theorem exists_site_of_declaresMapping {key : String} (hschema : schema.root.Ordered)
    (hopen : ∀ above, above <+: path → schema.OpensAt v above)
    (hmapping : schema.DeclaresMapping (path ++ [key])) :
    ∃ site ∈ rootSites v (.group (ofNode schema.root)), site.path = path ++ [key] ∧
      ∃ node, SchemaNode.descend? schema.root (path ++ [key]) = some node ∧
        SchemaNode.isObject node = true ∧ site.outline = .group (ofNode node) ∧
        site.held = v.get? (path ++ [key]) := by
  obtain ⟨-, node, hnode, hobject⟩ := Schema.declaresMapping_concat_iff.1 hmapping
  obtain ⟨parent, hparent, hchild⟩ :=
    Option.bind_eq_some_iff.1 ((SchemaNode.descend?_concat _ path key).symm.trans hnode)
  let site : Site := ⟨path, key, SchemaNode.isRequired parent key, ofProperty node,
    v.get? (path ++ [key])⟩
  have hsite : site ∈ rootSites v (.group (ofNode schema.root)) :=
    (mem_rootSites_ofNode hschema).2 ⟨⟨parent, node, hparent, hchild, rfl⟩, hopen⟩
  exact ⟨site, hsite, rfl, node, hnode, hobject, ofProperty_eq_group_iff.2 ⟨hobject, rfl⟩, rfl⟩

theorem opensAt_of_no_fault (hschema : schema.root.Ordered)
    (hroot : Admits (Members.keys (SchemaNode.properties schema.root)) (some v))
    (hsites : ∀ site ∈ rootSites v (.group (ofNode schema.root)), site.fault? = none)
    (hmapping : schema.DeclaresMapping path) :
    ∀ above, above <+: path → schema.OpensAt v above := by
  induction path using List.reverseRecOn with
  | nil =>
    intro above habove
    rw [List.prefix_nil.1 habove]
    exact ⟨schema.root, rfl, fun hne => absurd rfl hne, hroot⟩
  | append_singleton path key ih =>
    have hopen := ih (hmapping.of_prefix (List.prefix_append path [key]))
    obtain ⟨site, hsite, -, node, hnode, hobject, houtline, hheld⟩ :=
      exists_site_of_declaresMapping hschema hopen hmapping
    have hfault : site.fault? = none := hsites site hsite
    rw [Site.fault?, houtline] at hfault
    have hadmits := objectionTo?_eq_none_iff.1 hfault
    rw [keys_ofNode, hheld] at hadmits
    intro above habove
    rcases List.prefix_concat_iff.1 habove with rfl | habove
    · exact ⟨node, hnode, fun _ => hobject, hadmits⟩
    · exact hopen above habove

theorem fault?_eq_none_of_fits (hschema : schema.root.Ordered) (hfits : schema.Fits v)
    (hsite : site ∈ rootSites v (.group (ofNode schema.root))) : site.fault? = none := by
  obtain ⟨node, hnode, houtline⟩ := exists_node_of_mem hschema hsite
  obtain ⟨-, -, -, hheld⟩ := mem_rootSites.1 hsite
  cases hgroup : SchemaNode.isObject node with
  | false =>
    have hleaf : site.outline = .leaf (.ofNode node) := by
      rw [houtline, Outline.ofProperty, hgroup]
      rfl
    rw [Site.fault?, hleaf]
  | true =>
    have hmapping : schema.DeclaresMapping site.path :=
      declaresMapping_of_mem hschema hsite (by rw [houtline, isGroup_ofProperty, hgroup])
    obtain ⟨same, hsame, -, hadmits⟩ := hfits site.path hmapping
    obtain rfl : node = same := Option.some.inj (hnode.symm.trans hsame)
    rw [← keys_ofNode, ← hheld] at hadmits
    rw [Site.fault?, houtline, ofProperty_eq_group_iff.2 ⟨hgroup, rfl⟩]
    exact objectionTo?_eq_none_iff.2 hadmits

/-- Values of the declared shape are those that are planned without a mismatch. -/
theorem mismatches_make_eq_nil_iff (hschema : schema.root.Ordered) :
    (make v (some schema) mode findings settings).mismatches = [] ↔ schema.Fits v := by
  have hordered : (Outline.of v (some schema)).Ordered := orderedBelow_ofNode schema.root hschema
  rw [mismatches_make hordered, List.append_eq_nil_iff, List.filterMap_eq_nil_iff, Outline.of,
    Option.toList_eq_nil_iff, rootMismatch?, Option.map_eq_none_iff, objectionTo?_eq_none_iff,
    keys_ofNode]
  simp only [Site.mismatch?, Option.map_eq_none_iff]
  constructor
  · rintro ⟨hroot, hsites⟩ path hmapping
    exact opensAt_of_no_fault hschema hroot hsites hmapping path List.prefix_rfl
  · intro hfits
    obtain ⟨root, hroot, -, hadmits⟩ := hfits [] (Schema.declaresMapping_nil schema)
    obtain rfl : schema.root = root := Option.some.inj hroot
    exact ⟨hadmits, fun site => fault?_eq_none_of_fits hschema hfits⟩

theorem opens_iff_declaresMapping (hschema : schema.root.Ordered) (hfits : schema.Fits v) :
    (make v (some schema) mode findings settings).Opens path ↔ schema.DeclaresMapping path := by
  rw [opens_iff hschema]
  constructor
  · rintro (rfl | ⟨site, hsite, rfl, hgroup⟩)
    · exact Schema.declaresMapping_nil schema
    · exact declaresMapping_of_mem hschema hsite hgroup
  · intro hmapping
    obtain rfl | ⟨path, key, rfl⟩ := List.eq_nil_or_concat path
    · exact .inl rfl
    · rw [List.concat_eq_append] at hmapping ⊢
      have hopen : ∀ above, above <+: path → schema.OpensAt v above := fun above habove =>
        hfits above (hmapping.of_prefix (habove.trans (List.prefix_append path [key])))
      obtain ⟨site, hsite, hpath, node, -, -, houtline, -⟩ :=
        exists_site_of_declaresMapping hschema hopen hmapping
      exact .inr ⟨site, hsite, hpath, by rw [houtline]; rfl⟩

end Plan

namespace Editor

variable {editor : Editor} {schema : Schema} {path : KeyPath} {kind : InputKind}

theorem isSome_descend?_of_kindAt (hschema : editor.schema = some schema)
    (h : editor.kindAt path = .ok kind) : (SchemaNode.descend? schema.root path).isSome := by
  simp only [kindAt, hschema, except_bind_eq_ok, except_map_eq_ok, Prod.exists,
    Edit.splitLast_eq_ok, Schema.nodeAt, Schema.nodeFrom_structuralPath_eq_ok] at h
  obtain ⟨parent, key, rfl, node, hnode, classification, hclassify, -⟩ := h
  rw [SchemaNode.descend?_concat, hnode, Option.bind_some]
  rw [classify] at hclassify
  split at hclassify
  · next child hchild =>
    rw [hchild]
    rfl
  · exact absurd hclassify (by simp)

theorem fits_edited_iff (editor : Editor) (slot : KeySlot) (root : Value) (answer : Answer) :
    schema.Fits (editor.edited slot root answer).editor.value ↔ schema.Fits root := by
  cases hsame : root.same editor.value with
  | true =>
    have hinstall : ({ editor with slot }).install root = ({ editor with slot }, []) :=
      install_of_same hsame
    rw [edited, hinstall]
    exact (Schema.fits_iff_of_same hsame).symm
  | false => rw [edited_value_of_not_same hsame]

/-- An accepted input keeps the shape of a value if nothing was typed, or if it is for no container.
A text for a container takes the place of its mapping, which is a mismatch. -/
theorem accepted_input_keeps_shape_iff {path raw : String} {keys : KeyPath}
    {findings : List Finding} {settings : Settings} (hordered : schema.root.Ordered)
    (hschema : editor.schema = some schema) (hkeys : Dotted.decode path = .ok keys)
    (hshape : (Plan.make editor.value (some schema) .read findings settings).mismatches = [])
    (haccepted : (editor.step (.setValue path raw)).Accepted) (mode : Mode)
    (others : List Finding) (changed : Settings) :
    let next := (editor.step (.setValue path raw)).editor
    (Plan.make next.value (some schema) mode others changed).mismatches = [] ↔
      raw = "" ∨ ¬ (Plan.make editor.value (some schema) .read findings settings).Opens keys := by
  rw [Plan.mismatches_make_eq_nil_iff hordered] at hshape
  have haccepts := accepts_iff.2 ⟨rfl, haccepted⟩
  generalize editor.step (.setValue path raw) = outcome at haccepts
  cases haccepts with
  | @setValue _ _ decoded kind root _ hdecoded hkind hroot =>
    obtain rfl : keys = decoded := Except.ok.inj (hkeys.symm.trans hdecoded)
    obtain ⟨-, new, hnew, hstore⟩ := Edit.setValue_eq_ok.1 hroot
    have hdeclared := isSome_descend?_of_kindAt hschema hkind
    intro next
    rw [Plan.mismatches_make_eq_nil_iff hordered, Plan.opens_iff_declaresMapping hordered hshape,
      fits_edited_iff, hshape.store_iff hdeclared hstore (isContainer_of_coerce hnew),
      eq_null_iff_of_coerce hnew]

/-- A leaf is set below a container that was not there yet. -/
theorem input_below_absent_container_keeps_shape :
    let editor := Editor.new (.obj [("a", .str "x")]) (some .sample)
    let outcome := editor.step (.setValue "b..c" "7")
    Schema.sample.root.Ordered ∧ Dotted.decode "b..c" = .ok ["b", "c"] ∧ outcome.Accepted ∧
      outcome.editor.value.get? ["b", "c"] = some (.num (.int 7)) ∧
      (Plan.make outcome.editor.value (some .sample) .read [] .standard).mismatches = [] := by
  intro editor outcome
  have hkeys : Dotted.decode "b..c" = .ok ["b", "c"] := rfl
  have hshape : (Plan.make editor.value (some .sample) .read [] .standard).mismatches = [] := rfl
  have haccepted : outcome.Accepted := ⟨.done, rfl⟩
  have hkept := accepted_input_keeps_shape_iff Schema.ordered_sample rfl hkeys hshape haccepted
    .read [] .standard
  refine ⟨Schema.ordered_sample, hkeys, haccepted, rfl, hkept.2 (.inr ?_)⟩
  rintro (hroot | ⟨row, hrow, hpath, hcontainer⟩)
  · exact absurd hroot (by decide)
  · have hcontainers : ∀ row ∈ (Plan.make editor.value (some .sample) .read [] .standard).rows,
        row.isContainer = true → row.path = "b" := by decide
    obtain ⟨hdecode, -⟩ := hpath
    rw [hcontainers row hrow hcontainer] at hdecode
    exact absurd (Except.ok.inj hdecode) (by decide)

/-- A text that is set for a container stands where the schema declares a mapping. -/
theorem text_for_container_breaks_shape :
    let editor := Editor.new (.obj []) (some .sample)
    let outcome := editor.step (.setValue "b" "x")
    (Plan.make editor.value (some .sample) .read [] .standard).mismatches = [] ∧
      outcome.answer = .ok .done ∧ outcome.editor.value = .obj [("b", .str "x")] ∧
      (Plan.make outcome.editor.value (some .sample) .read [] .standard).mismatches ≠ [] :=
  ⟨rfl, rfl, rfl, nofun⟩

end Editor

end FormTree
