import FormTree.Proofs.Form.Children
import FormTree.Proofs.Form.Outline
import FormTree.Proofs.Path.Dotted

/-!
# Where rows stand

Before a plan is drawn, its rows have sites, one for each branch of the outline that is reached
through nodes with room for the branches below them. Sites depend on the outline and on the value
as it was given.

`Reached` is the same in other words, one step down a path after the other: the branches of the root
are reached, and those of a group are when the group is. Every reached branch has a site
(`mem_rootSites`), and only one, as the paths of the sites strictly increase
(`increasing_rootSites`). What has a site below it is a group that is reached (`group_of_below`).
-/

namespace FormTree

open Value Child

theorem Value.get?_concat (v : Value) (path : KeyPath) (key : String) :
    v.get? (path ++ [key]) = (v.get? path).bind (·.member? key) := by
  rw [get?_append]
  refine congrArg _ (funext fun x => ?_)
  rw [get?_cons]
  exact Option.bind_fun_some _

namespace Outline

/-- A row before it is drawn: where it stands, and what the value holds there. -/
structure Site where
  parent : KeyPath
  key : String
  required : Bool
  outline : Outline
  held : Option Value

namespace Site

def path (site : Site) : KeyPath := site.parent ++ [site.key]

/-- The dotted path. -/
def address (site : Site) : String := Dotted.encode site.path

/-- Why nothing is drawn below a site that is for a container. -/
def fault? (site : Site) : Option FieldError :=
  match site.outline with
  | .leaf _ => none
  | .group branches => objectionTo? site.held (keys branches) site.path

theorem eq_of_address_eq {site other : Site} (h : site.address = other.address) :
    site.path = other.path := by
  have hdecoded := Dotted.decode_encode site.path
  rw [show Dotted.encode site.path = Dotted.encode other.path from h,
    Dotted.decode_encode] at hdecoded
  exact (Except.ok.inj hdecoded).symm

end Site

mutual

/-- The site of a branch and the sites below it, when `held` is what the value has there. -/
def sites (parent : KeyPath) (key : String) (required : Bool) :
    Outline → Option Value → List Site
  | .leaf kind, held => [⟨parent, key, required, .leaf kind, held⟩]
  | .group branches, held =>
    ⟨parent, key, required, .group branches, held⟩ ::
      if Admits (keys branches) held then sitesBelow (parent ++ [key]) branches held else []

/-- The sites of the branches below `path`, when `held` is what the value has at `path`. -/
def sitesBelow (path : KeyPath) : List Branch → Option Value → List Site
  | [], _ => []
  | (key, required, outline) :: rest, held =>
    sites path key required outline (held.bind (·.member? key)) ++ sitesBelow path rest held

end

/-- The sites of a whole form. -/
def rootSites (v : Value) : Outline → List Site
  | .leaf _ => []
  | .group branches =>
    if Admits (keys branches) (some v) then sitesBelow [] branches (some v) else []

variable {v : Value} {path : KeyPath} {key : String} {required : Bool} {outline : Outline}
  {root branches : List Branch} {held : Option Value} {site : Site}

theorem sitesBelow_congr {held other : Option Value} (path : KeyPath)
    (h : ∀ key ∈ keys branches, held.bind (·.member? key) = other.bind (·.member? key)) :
    sitesBelow path branches held = sitesBelow path branches other := by
  induction branches with
  | nil => rfl
  | cons branch rest ih =>
    obtain ⟨key, required, outline⟩ := branch
    have hrest := ih fun other hother => h other (List.mem_cons_of_mem _ hother)
    rw [sitesBelow, sitesBelow, h key List.mem_cons_self, hrest]

theorem mem_sitesBelow : site ∈ sitesBelow path branches held ↔
    ∃ branch ∈ branches,
      site ∈ sites path branch.1 branch.2.1 branch.2.2 (held.bind (·.member? branch.1)) := by
  induction branches with
  | nil => simp [sitesBelow]
  | cons branch rest ih =>
    obtain ⟨key, required, outline⟩ := branch
    rw [sitesBelow, List.mem_append, ih, List.exists_mem_cons_iff]

theorem mem_sites_group : site ∈ sites path key required (.group branches) held ↔
    site = ⟨path, key, required, .group branches, held⟩ ∨
      Admits (keys branches) held ∧ site ∈ sitesBelow (path ++ [key]) branches held := by
  rw [sites, List.mem_cons, List.mem_ite_nil_right]

/-! ### Branches that are reached -/

/-- The rows below `path` are for `branches`: those of the root, or those of a group that is reached
itself and whose node has room for them. -/
inductive Reached (v : Value) (root : List Branch) : KeyPath → List Branch → Prop where
  | root : Admits (keys root) (some v) → Reached v root [] root
  | step {path : KeyPath} {branches inside : List Branch} {key : String} {required : Bool} :
    Reached v root path branches → (key, required, .group inside) ∈ branches →
    Admits (keys inside) (v.get? (path ++ [key])) → Reached v root (path ++ [key]) inside

/-- The site is that of a branch that is reached. -/
def Site.Stands (site : Site) (v : Value) (root : List Branch) : Prop :=
  ∃ branches, Reached v root site.parent branches ∧
    (site.key, site.required, site.outline) ∈ branches ∧ site.held = v.get? site.path

mutual

theorem stands_of_mem_sites : (outline : Outline) → (path : KeyPath) → (key : String) →
    (required : Bool) → {branches : List Branch} → Reached v root path branches →
    (key, required, outline) ∈ branches →
    site ∈ sites path key required outline (v.get? (path ++ [key])) → site.Stands v root
  | .leaf kind, path, key, required, branches, hreached, hbranch, hsite => by
    rw [sites, List.mem_singleton] at hsite
    subst hsite
    exact ⟨branches, hreached, hbranch, rfl⟩
  | .group inside, path, key, required, branches, hreached, hbranch, hsite => by
    rcases mem_sites_group.1 hsite with rfl | ⟨hadmits, hbelow⟩
    · exact ⟨branches, hreached, hbranch, rfl⟩
    · exact stands_of_mem_sitesBelow inside (path ++ [key])
        (.step hreached hbranch hadmits) (fun _ h => h) hbelow

theorem stands_of_mem_sitesBelow : (part : List Branch) → (path : KeyPath) →
    {branches : List Branch} → Reached v root path branches → (∀ branch ∈ part, branch ∈ branches) →
    site ∈ sitesBelow path part (v.get? path) → site.Stands v root
  | [], path, branches, _, _, hsite => absurd hsite List.not_mem_nil
  | (key, required, outline) :: rest, path, branches, hreached, hpart, hsite => by
    rw [sitesBelow, List.mem_append, ← get?_concat] at hsite
    rcases hsite with hfirst | hrest
    · exact stands_of_mem_sites outline path key required hreached (hpart _ List.mem_cons_self)
        hfirst
    · exact stands_of_mem_sitesBelow rest path hreached
        (fun branch h => hpart branch (List.mem_cons_of_mem _ h)) hrest

end

theorem Reached.mem_rootSites (h : Reached v root path branches)
    (hsite : site ∈ sitesBelow path branches (v.get? path)) :
    site ∈ rootSites v (.group root) := by
  induction h with
  | root hadmits =>
    rw [rootSites, if_pos hadmits]
    exact hsite
  | step _ hbranch hadmits ih =>
    apply ih
    rw [mem_sitesBelow]
    refine ⟨_, hbranch, ?_⟩
    rw [← get?_concat]
    exact mem_sites_group.2 (.inr ⟨hadmits, hsite⟩)

theorem mem_rootSites : site ∈ rootSites v (.group root) ↔ site.Stands v root := by
  constructor
  · intro hsite
    rw [rootSites, List.mem_ite_nil_right] at hsite
    obtain ⟨hadmits, hbelow⟩ := hsite
    exact stands_of_mem_sitesBelow root [] (.root hadmits) (fun _ h => h) hbelow
  · rintro ⟨branches, hreached, hbranch, hheld⟩
    apply hreached.mem_rootSites
    rw [mem_sitesBelow]
    refine ⟨_, hbranch, ?_⟩
    rw [← get?_concat, ← Site.path, ← hheld]
    obtain ⟨parent, key, required, outline, held⟩ := site
    cases outline with
    | leaf kind => exact List.mem_singleton_self _
    | group inside => exact List.mem_cons_self

/-! ### The order of sites -/

mutual

theorem exists_rest_of_mem_sites : (outline : Outline) → (path : KeyPath) → (key : String) →
    (required : Bool) → (held : Option Value) → site ∈ sites path key required outline held →
    ∃ rest, site.path = path ++ key :: rest
  | .leaf kind, path, key, required, held, hsite => by
    rw [sites, List.mem_singleton] at hsite
    subst hsite
    exact ⟨[], rfl⟩
  | .group inside, path, key, required, held, hsite => by
    rcases mem_sites_group.1 hsite with rfl | ⟨-, hbelow⟩
    · exact ⟨[], rfl⟩
    · obtain ⟨next, -, rest, hpath⟩ :=
        exists_rest_of_mem_sitesBelow inside (path ++ [key]) held hbelow
      exact ⟨next :: rest, by rw [hpath, List.append_assoc, List.singleton_append]⟩

theorem exists_rest_of_mem_sitesBelow : (branches : List Branch) → (path : KeyPath) →
    (held : Option Value) → site ∈ sitesBelow path branches held →
    ∃ key ∈ keys branches, ∃ rest, site.path = path ++ key :: rest
  | [], path, held, hsite => absurd hsite List.not_mem_nil
  | (key, required, outline) :: others, path, held, hsite => by
    rcases List.mem_append.1 hsite with hfirst | hothers
    · exact ⟨key, List.mem_cons_self,
        exists_rest_of_mem_sites outline path key required _ hfirst⟩
    · obtain ⟨other, hother, hrest⟩ := exists_rest_of_mem_sitesBelow others path held hothers
      exact ⟨other, List.mem_cons_of_mem _ hother, hrest⟩

end

/-- The paths strictly increase, a parent before what is below it. -/
def Increasing (sites : List Site) : Prop := sites.Pairwise fun first second =>
  first.path < second.path

mutual

theorem increasing_sites : (outline : Outline) → (path : KeyPath) → (key : String) →
    (required : Bool) → (held : Option Value) → outline.Ordered →
    Increasing (sites path key required outline held)
  | .leaf kind, path, key, required, held, _ => List.pairwise_singleton _ _
  | .group branches, path, key, required, held, hordered => by
    rw [sites]
    refine List.pairwise_cons.2 ⟨fun site hsite => ?_, ?_⟩
    · obtain ⟨-, hbelow⟩ := List.mem_ite_nil_right.1 hsite
      obtain ⟨next, -, rest, hpath⟩ := exists_rest_of_mem_sitesBelow branches _ held hbelow
      have hless := @List.append_left_lt _ _ (path ++ [key]) _ _ (List.nil_lt_cons next rest)
      rw [List.append_nil] at hless
      exact hpath ▸ hless
    · split
      · exact increasing_sitesBelow branches (path ++ [key]) held hordered
      · exact List.Pairwise.nil

theorem increasing_sitesBelow : (branches : List Branch) → (path : KeyPath) →
    (held : Option Value) → OrderedBelow branches → Increasing (sitesBelow path branches held)
  | [], path, held, _ => List.Pairwise.nil
  | (key, required, outline) :: others, path, held, hordered => by
    obtain ⟨hless, houtline, hothers⟩ := hordered
    rw [sitesBelow]
    refine List.pairwise_append.2 ⟨increasing_sites outline path key required _ houtline,
      increasing_sitesBelow others path held hothers, fun first hfirst second hsecond => ?_⟩
    obtain ⟨rest, hpath⟩ := exists_rest_of_mem_sites outline path key required _ hfirst
    obtain ⟨other, hother, below, hbelow⟩ :=
      exists_rest_of_mem_sitesBelow others path held hsecond
    rw [hpath, hbelow]
    exact List.append_left_lt (List.cons_lt_cons_iff.2 (.inl (hless other hother)))

end

theorem increasing_rootSites (v : Value) (h : outline.Ordered) :
    Increasing (rootSites v outline) := by
  cases outline with
  | leaf kind => exact List.Pairwise.nil
  | group branches =>
    rw [rootSites]
    split
    · exact increasing_sitesBelow branches [] (some v) h
    · exact List.Pairwise.nil

theorem Increasing.nodup_addresses {sites : List Site} (h : Increasing sites) :
    (sites.map Site.address).Nodup := by
  refine List.pairwise_map.2 (h.imp fun hless heq => ?_)
  rw [Site.eq_of_address_eq heq] at hless
  exact List.lt_irrefl _ hless

theorem eq_of_path_eq {other : Site} (h : outline.Ordered) (hsite : site ∈ rootSites v outline)
    (hother : other ∈ rootSites v outline) (hpath : site.path = other.path) : site = other :=
  List.inj_on_of_nodup_map (increasing_rootSites v h).nodup_addresses hsite hother
    (congrArg Dotted.encode hpath)

/-! ### The way to a site -/

variable {other : Site} {inside : List Branch} {done rest : KeyPath} {last : String}

theorem Reached.admits (h : Reached v root path branches) :
    Admits (keys branches) (v.get? path) := by
  cases h with
  | root hadmits => exact hadmits
  | step _ _ hadmits => exact hadmits

/-- Every node on the way to a branch is reached, and the way goes on by one of its keys. -/
theorem Reached.on_way (h : Reached v root path branches) (hlast : last ∈ keys branches)
    (hpath : path ++ [last] = done ++ key :: rest) :
    ∃ inside, Reached v root done inside ∧ key ∈ keys inside := by
  induction h generalizing last rest with
  | root hadmits =>
    cases done with
    | nil => exact ⟨root, .root hadmits, (List.cons.inj hpath).1 ▸ hlast⟩
    | cons first others => simp at hpath
  | @step path branches inside own required hreached hbranch hadmits ih =>
    obtain rfl | ⟨between, end', rfl⟩ := List.eq_nil_or_concat rest
    · obtain ⟨rfl, rfl⟩ := List.append_singleton_inj.1 hpath
      exact ⟨inside, .step hreached hbranch hadmits, hlast⟩
    · rw [List.concat_eq_append, ← List.cons_append, ← List.append_assoc] at hpath
      obtain ⟨hpath, -⟩ := List.append_singleton_inj.1 hpath
      exact ih (List.mem_map_of_mem hbranch) hpath

theorem Reached.eq_root (h : Reached v root path branches) (hpath : path = []) :
    branches = root := by
  cases h with
  | root _ => rfl
  | step _ _ _ => exact absurd hpath (List.concat_ne_nil _ _)

theorem Site.Stands.on_way (h : site.Stands v root) (hpath : site.path = done ++ key :: rest) :
    ∃ inside, Reached v root done inside ∧ key ∈ keys inside := by
  obtain ⟨branches, hreached, hbranch, -⟩ := h
  exact hreached.on_way (List.mem_map_of_mem hbranch) hpath

theorem Reached.exists_group (h : Reached v root path inside) (hne : path ≠ []) :
    ∃ site ∈ rootSites v (.group root), site.path = path ∧ site.outline = .group inside := by
  cases h with
  | root _ => exact absurd rfl hne
  | @step path branches _ key required hreached hbranch _ =>
    let site : Site := ⟨path, key, required, .group inside, v.get? (path ++ [key])⟩
    exact ⟨site, Outline.mem_rootSites.2 ⟨branches, hreached, hbranch, rfl⟩, rfl, rfl⟩

/-- A site with another one below it is for a group with room for it. -/
theorem group_of_below (hordered : OrderedBelow root)
    (hsite : site ∈ rootSites v (.group root)) (hother : other ∈ rootSites v (.group root))
    (hpath : other.path = site.path ++ key :: rest) :
    ∃ inside, site.outline = .group inside ∧ Reached v root site.path inside ∧
      key ∈ keys inside := by
  obtain ⟨inside, hreached, hkey⟩ := (mem_rootSites.1 hother).on_way hpath
  obtain ⟨group, hgroup, hsame, houtline⟩ := hreached.exists_group (List.concat_ne_nil _ _)
  have hroot : (Outline.group root).Ordered := hordered
  obtain rfl : group = site := eq_of_path_eq hroot hgroup hsite hsame
  exact ⟨inside, houtline, hreached, hkey⟩

end Outline

end FormTree
