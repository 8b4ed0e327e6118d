import FormTree.Proofs.Form.Fill
import FormTree.Proofs.Form.Sites
import Mathlib.Data.List.Induction

/-!
# The form of a filled value

Filling works member by member: each branch fills what is held at its own key, and no other key is
touched (`find?_fillBelow`). So a filled value has the sites that the value had before, each with
its filled node (`rootSites_fill`), and away from the root and the sites it holds what was held
before (`get?_fill_of_not_mem`).
-/

namespace FormTree

open Value Child

namespace Outline

variable {branches root inside : List Branch} {outline : Outline} {held : Option Value}
  {v : Value} {key : String} {required : Bool} {path : KeyPath} {site : Site}
  {members : List (String × Value)}

/-! ### The members of a filled mapping -/

theorem find?_fillBelow_of_not_mem (h : key ∉ keys branches) (members : List (String × Value)) :
    Members.find? key (fillBelow branches members) = Members.find? key members := by
  induction branches generalizing members with
  | nil => rfl
  | cons branch rest ih =>
    obtain ⟨first, required, outline⟩ := branch
    obtain ⟨hfirst, hrest⟩ := List.ne_and_not_mem_of_not_mem_cons h
    rw [fillBelow, ih hrest, Members.find?_put_of_ne _ _ hfirst]

theorem find?_fillBelow (hordered : OrderedBelow branches)
    (hbranch : (key, required, outline) ∈ branches) (members : List (String × Value)) :
    Members.find? key (fillBelow branches members) =
      some (fill outline (Members.find? key members)) := by
  induction branches generalizing members with
  | nil => exact absurd hbranch List.not_mem_nil
  | cons branch rest ih =>
    obtain ⟨first, own, other⟩ := branch
    obtain ⟨hless, -, hrest⟩ := hordered
    rcases List.mem_cons.1 hbranch with heq | hbranch
    · obtain ⟨rfl, rfl, rfl⟩ : key = first ∧ required = own ∧ outline = other := by
        simpa only [Prod.mk.injEq] using heq
      have hnot : key ∉ keys rest := fun hkey => String.lt_irrefl _ (hless key hkey)
      rw [fillBelow, find?_fillBelow_of_not_mem hnot, Members.find?_put_self]
    · have hless := hless key (List.mem_map_of_mem hbranch)
      have hne : key ≠ first := fun heq => String.lt_irrefl _ (heq ▸ hless)
      rw [fillBelow, ih hrest hbranch, Members.find?_put_of_ne _ _ hne]

theorem mem_keys_fillBelow (hordered : OrderedBelow branches) :
    key ∈ Members.keys (fillBelow branches members) ↔
      key ∈ keys branches ∨ key ∈ Members.keys members := by
  by_cases hkey : key ∈ keys branches
  · obtain ⟨⟨_, required, outline⟩, hbranch, rfl⟩ := List.mem_map.1 hkey
    have hfilled := find?_fillBelow hordered hbranch members
    exact ⟨fun _ => .inl hkey, fun _ => Members.mem_keys_of_find? hfilled⟩
  · rw [← Members.has_iff_mem_keys, Members.has, find?_fillBelow_of_not_mem hkey, ← Members.has,
      Members.has_iff_mem_keys]
    exact ⟨.inr, fun h => h.resolve_left hkey⟩

theorem exists_members_fill (hordered : OrderedBelow branches) (h : Admits (keys branches) held) :
    ∃ members, fill (.group branches) held = .obj members ∧
      ∀ key, key ∈ Members.keys members ↔ key ∈ keys branches := by
  obtain ⟨members, hmembers⟩ := h.exists_members
  have hknown : ∀ key ∈ Members.keys members, key ∈ keys branches := by
    rw [← admits_opened, hmembers] at h
    exact admits_obj_iff.1 h
  refine ⟨_, fill_group_of_admits hmembers h, fun key => ?_⟩
  rw [mem_keys_fillBelow hordered]
  exact ⟨fun hkey => hkey.elim id (hknown key), .inl⟩

/-- Filling a node is no reason for an objection, and takes none away. -/
theorem objectionTo?_fill (hordered : OrderedBelow branches) (held : Option Value)
    (path : KeyPath) : objectionTo? (some (fill (.group branches) held)) (keys branches) path =
      objectionTo? held (keys branches) path := by
  by_cases hadmits : Admits (keys branches) held
  · obtain ⟨members, hmembers, hkeys⟩ := exists_members_fill hordered hadmits
    have hstill : Admits (keys branches) (some (.obj members)) :=
      admits_obj_iff.2 fun key => (hkeys key).1
    rw [hmembers, objectionTo?_eq_none_iff.2 hstill, objectionTo?_eq_none_iff.2 hadmits]
  · rw [fill_group_of_not_admits hadmits]
    exact objectionTo?_opened held (keys branches) path

theorem admits_fill (hordered : OrderedBelow branches) :
    Admits (keys branches) (some (fill (.group branches) held)) ↔ Admits (keys branches) held := by
  have hsame := objectionTo?_fill hordered held []
  rw [← @objectionTo?_eq_none_iff _ _ [], hsame, objectionTo?_eq_none_iff]

theorem member?_fill_of_mem (hordered : OrderedBelow branches) (h : Admits (keys branches) held)
    (hbranch : (key, required, outline) ∈ branches) :
    (fill (.group branches) held).member? key =
      some (fill outline (held.bind (·.member? key))) := by
  obtain ⟨members, hmembers⟩ := h.exists_members
  rw [fill_group_of_admits hmembers h, member?_obj, find?_fillBelow hordered hbranch,
    ← member?_obj, ← hmembers, member?_opened]

theorem member?_fill_group (h : Admits (keys branches) held → key ∉ keys branches) :
    (fill (.group branches) held).member? key = held.bind (·.member? key) := by
  rw [← member?_opened true]
  by_cases hadmits : Admits (keys branches) held
  · obtain ⟨members, hmembers⟩ := hadmits.exists_members
    rw [fill_group_of_admits hmembers hadmits, hmembers, member?_obj,
      find?_fillBelow_of_not_mem (h hadmits), ← member?_obj]
  · rw [fill_group_of_not_admits hadmits]

theorem member?_fill_leaf (kind : InputKind) (held : Option Value) (key : String) :
    (fill (.leaf kind) held).member? key = held.bind (·.member? key) := by
  rw [fill, opened_leaf_eq_getD]
  cases held <;> rfl

theorem fill_of_vacant (outline : Outline) (h : held.getD .null = .null) :
    (outline.isGroup = true → ∃ members, fill outline held = .obj members) ∧
      (outline.isGroup = false → fill outline held = .null) := by
  cases outline with
  | leaf kind =>
    refine ⟨fun hgroup => absurd hgroup (by simp [isGroup]), fun _ => ?_⟩
    rw [fill, opened_leaf_eq_getD, h]
  | group branches =>
    refine ⟨fun _ => ?_, fun hleaf => absurd hleaf (by simp [isGroup])⟩
    have hadmits : Admits (keys branches) held := by
      cases held with
      | none => exact .inl rfl
      | some x => exact .inr (.inl (congrArg some h))
    obtain ⟨members, hmembers⟩ := hadmits.exists_members
    exact ⟨_, fill_group_of_admits hmembers hadmits⟩

/-! ### The sites of a filled value -/

theorem OrderedBelow.of_mem (h : OrderedBelow branches)
    (hbranch : (key, required, outline) ∈ branches) : outline.Ordered := by
  induction branches with
  | nil => exact absurd hbranch List.not_mem_nil
  | cons branch rest ih =>
    obtain ⟨first, own, other⟩ := branch
    obtain ⟨-, hother, hrest⟩ := h
    rcases List.mem_cons.1 hbranch with heq | hbranch
    · obtain ⟨-, -, rfl⟩ : key = first ∧ required = own ∧ outline = other := by
        simpa only [Prod.mk.injEq] using heq
      exact hother
    · exact ih hrest hbranch

theorem Reached.ordered (h : Reached v root path branches) (hordered : OrderedBelow root) :
    OrderedBelow branches := by
  induction h with
  | root _ => exact hordered
  | step _ hbranch _ ih => exact ih.of_mem hbranch

theorem Site.Stands.ordered (h : site.Stands v root) (hordered : OrderedBelow root) :
    site.outline.Ordered := by
  obtain ⟨branches, hreached, hbranch, -⟩ := h
  exact (hreached.ordered hordered).of_mem hbranch

/-- The site with its node filled. -/
def Site.filled (site : Site) : Site :=
  { site with held := some (fill site.outline site.held) }

mutual

theorem sites_fill : (outline : Outline) → outline.Ordered → (path : KeyPath) → (key : String) →
    (required : Bool) → (held : Option Value) →
    sites path key required outline (some (fill outline held)) =
      (sites path key required outline held).map Site.filled
  | .leaf kind, _, path, key, required, held => rfl
  | .group branches, hordered, path, key, required, held => by
    rw [sites, sites, List.map_cons]
    refine congrArg _ ?_
    by_cases hadmits : Admits (keys branches) held
    · rw [if_pos hadmits, if_pos ((admits_fill hordered).2 hadmits)]
      exact sitesBelow_fill branches hordered (path ++ [key]) fun key required outline hbranch =>
        member?_fill_of_mem hordered hadmits hbranch
    · rw [if_neg hadmits, if_neg (mt (admits_fill hordered).1 hadmits)]
      rfl

theorem sitesBelow_fill : (branches : List Branch) → OrderedBelow branches → (path : KeyPath) →
    {held : Option Value} → {v : Value} → (∀ key required outline,
      (key, required, outline) ∈ branches →
        v.member? key = some (fill outline (held.bind (·.member? key)))) →
    sitesBelow path branches (some v) = (sitesBelow path branches held).map Site.filled
  | [], _, path, held, v, _ => rfl
  | (key, required, outline) :: rest, hordered, path, held, v, hfilled => by
    obtain ⟨-, houtline, hrest⟩ := hordered
    have hfirst := sites_fill outline houtline path key required (held.bind (·.member? key))
    have hothers := sitesBelow_fill rest hrest path fun key required outline hbranch =>
      hfilled key required outline (List.mem_cons_of_mem _ hbranch)
    rw [sitesBelow, sitesBelow, List.map_append, ← hfirst, ← hothers, Option.bind_some,
      hfilled key required outline List.mem_cons_self]

end

/-- A filled value has the sites of the value, each with its node filled. -/
theorem rootSites_fill (hordered : OrderedBelow root) (v : Value) :
    rootSites (fill (.group root) (some v)) (.group root) =
      (rootSites v (.group root)).map Site.filled := by
  rw [rootSites, rootSites]
  by_cases hadmits : Admits (keys root) (some v)
  · rw [if_pos hadmits, if_pos ((admits_fill hordered).2 hadmits)]
    exact sitesBelow_fill root hordered [] fun key required outline hbranch =>
      member?_fill_of_mem hordered hadmits hbranch
  · rw [if_neg hadmits, if_neg (mt (admits_fill hordered).1 hadmits)]
    rfl

/-! ### The nodes of a filled value -/

theorem get?_fill_of_mem (hordered : OrderedBelow root) (hsite : site ∈ rootSites v (.group root)) :
    (fill (.group root) (some v)).get? site.path = some (fill site.outline site.held) := by
  have hfilled : site.filled ∈ rootSites (fill (.group root) (some v)) (.group root) := by
    rw [rootSites_fill hordered]
    exact List.mem_map_of_mem hsite
  obtain ⟨-, -, -, hheld⟩ := mem_rootSites.1 hfilled
  exact hheld.symm

theorem Reached.concat_mem_paths (h : Reached v root path branches) (hkey : key ∈ keys branches) :
    path ++ [key] ∈ (rootSites v (.group root)).map Site.path := by
  obtain ⟨⟨own, required, outline⟩, hbranch, rfl⟩ := List.mem_map.1 hkey
  let site : Site := ⟨path, own, required, outline, v.get? (path ++ [own])⟩
  have hsite : site ∈ rootSites v (.group root) :=
    Outline.mem_rootSites.2 ⟨branches, h, hbranch, rfl⟩
  exact List.mem_map_of_mem hsite

theorem Site.Stands.reached (h : site.Stands v root) (hgroup : site.outline = .group inside)
    (hadmits : Admits (keys inside) site.held) : Reached v root site.path inside := by
  obtain ⟨branches, hreached, hbranch, hheld⟩ := h
  rw [hgroup] at hbranch
  rw [hheld] at hadmits
  exact .step hreached hbranch hadmits

/-- Away from the root and the sites, filling changes nothing. -/
theorem get?_fill_of_not_mem (hordered : OrderedBelow root) (v : Value) (hne : path ≠ [])
    (hpath : path ∉ (rootSites v (.group root)).map Site.path) :
    (fill (.group root) (some v)).get? path = v.get? path := by
  induction path using List.reverseRecOn with
  | nil => exact absurd rfl hne
  | append_singleton path key ih =>
    rw [get?_concat, get?_concat]
    by_cases hroot : path = []
    · subst hroot
      rw [get?_nil, get?_nil, Option.bind_some]
      exact member?_fill_group fun hadmits hkey =>
        hpath ((Reached.root hadmits).concat_mem_paths hkey)
    by_cases habove : path ∈ (rootSites v (.group root)).map Site.path
    · obtain ⟨site, hsite, rfl⟩ := List.mem_map.1 habove
      have hstands : site.Stands v root := mem_rootSites.1 hsite
      have ⟨_, _, _, hheld⟩ := hstands
      rw [get?_fill_of_mem hordered hsite, ← hheld, Option.bind_some]
      cases houtline : site.outline with
      | leaf kind => exact member?_fill_leaf kind site.held key
      | group inside =>
        exact member?_fill_group fun hadmits hkey =>
          hpath ((hstands.reached houtline hadmits).concat_mem_paths hkey)
    · rw [ih hroot habove]

end Outline

end FormTree
