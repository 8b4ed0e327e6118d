import FormTree.Form.Outline
import FormTree.Proofs.Form.Children
import FormTree.Schema.Validation

/-!
# Filled nodes

`fill` makes of a node what an outline asks for: where there is nothing, or `null`, it opens what is
missing, and where the value holds something else it leaves the node alone.

A filled node is settled: it has all that the outline asks for, wherever the outline can be
followed. To be settled survives every growth, as a mapping that had room for its keys can only lose
that by getting more keys. So what was filled stays as it is when it is filled again.
-/

namespace FormTree

open Value Child

namespace Outline

variable {branches : List Branch} {held : Option Value} {x : Value}

/-! ### Filling a node -/

mutual

/-- What building makes of the node that an outline is for. -/
def fill : Outline → Option Value → Value
  | .leaf _, held => opened false held
  | .group branches, held =>
    match opened true held with
    | .obj inner =>
      if Admits (keys branches) (some (.obj inner)) then .obj (fillBelow branches inner)
      else .obj inner
    | v => v

/-- What building makes of the members of a mapping, branch by branch. -/
def fillBelow : List Branch → List (String × Value) → List (String × Value)
  | [], members => members
  | (key, _, outline) :: rest, members =>
    fillBelow rest (Members.put key (fill outline (Members.find? key members)) members)

end

theorem fill_group_of_admits {members : List (String × Value)}
    (hopened : opened true held = .obj members) (h : Admits (keys branches) held) :
    fill (.group branches) held = .obj (fillBelow branches members) := by
  have hadmits : Admits (keys branches) (some (.obj members)) := by
    rw [← hopened]
    exact admits_opened.2 h
  simp only [fill, hopened, if_pos hadmits]

theorem fill_group_of_not_admits (h : ¬ Admits (keys branches) held) :
    fill (.group branches) held = opened true held := by
  rw [← admits_opened] at h
  rw [fill]
  split
  · next members hopened =>
    rw [hopened] at h
    rw [if_neg h, hopened]
  · rfl

/-! ### What is filled grows -/

mutual

theorem growsTo_fill : (outline : Outline) → (v : Value) → v.GrowsTo (fill outline (some v))
  | .leaf _, v => growsTo_opened false v
  | .group branches, v => by
    by_cases hadmits : Admits (keys branches) (some v)
    · obtain ⟨members, hmembers⟩ := hadmits.exists_members
      rw [fill_group_of_admits hmembers hadmits]
      have hopened : v.GrowsTo (.obj members) := hmembers ▸ growsTo_opened true v
      exact hopened.trans (growsTo_fillBelow branches members)
    · rw [fill_group_of_not_admits hadmits]
      exact growsTo_opened true v

theorem growsTo_fillBelow : (branches : List Branch) → (members : List (String × Value)) →
    (Value.obj members).GrowsTo (.obj (fillBelow branches members))
  | [], _ => .refl _
  | (_, _, outline) :: rest, _ =>
    (growsTo_put fun x hx => hx ▸ growsTo_fill outline x).trans (growsTo_fillBelow rest _)

end

/-! ### Settled nodes -/

mutual

/-- There is a node, and if rows can be drawn below it, then all of them are settled. -/
def Settled : Outline → Option Value → Prop
  | .leaf _, held => held.isSome
  | .group branches, held =>
    ∃ v, held = some v ∧ v.isNull = false ∧
      ∀ members, v = .obj members → Admits (keys branches) (some v) →
        SettledBelow branches members

def SettledBelow : List Branch → List (String × Value) → Prop
  | [], _ => True
  | (key, _, outline) :: rest, members =>
    Settled outline (Members.find? key members) ∧ SettledBelow rest members

end

theorem Settled.exists_held {outline : Outline} (h : Settled outline held) :
    ∃ v, held = some v := by
  cases outline with
  | leaf kind => exact Option.isSome_iff_exists.1 (by simpa only [Settled] using h)
  | group branches =>
    obtain ⟨v, hv, -⟩ := by simpa only [Settled] using h
    exact ⟨v, hv⟩

theorem exists_grown_member {key : String} {members more : List (String × Value)}
    (h : (Value.obj members).GrowsTo (.obj more)) (hx : Members.find? key members = some x) :
    ∃ y, Members.find? key more = some y ∧ x.GrowsTo y := by
  obtain ⟨y, hy⟩ := Members.exists_find?_of_mem_keys (h.keys key (Members.mem_keys_of_find? hx))
  exact ⟨y, hy, h.member hx hy⟩

mutual

/-- A settled node stays settled when it grows. -/
theorem Settled.grow : (outline : Outline) → {v w : Value} → v.GrowsTo w →
    Settled outline (some v) → Settled outline (some w)
  | .leaf _, _, _, _, _ => by simp [Settled]
  | .group branches, v, w, hgrows, h => by
    simp only [Settled, Option.some.injEq, exists_eq_left'] at h ⊢
    obtain ⟨hnull, hbelow⟩ := h
    cases hv : v.isContainer with
    | false =>
      have hsame : w = v := by
        have hroot := (hgrows []).2 v rfl hnull hv
        rwa [get?_nil, Option.some.injEq] at hroot
      rw [hsame]
      exact ⟨hnull, hbelow⟩
    | true =>
      obtain ⟨members, rfl⟩ := isContainer_eq_true_iff.1 hv
      obtain ⟨more, hmore, hkeys⟩ := (hgrows []).1 members rfl
      rw [get?_nil, Option.some.injEq] at hmore
      subst hmore
      refine ⟨rfl, fun more' hmore' hadmits => ?_⟩
      obtain rfl := Value.obj.inj hmore'
      have hadmitted := admits_obj_iff.1 hadmits
      have hbefore : Admits (keys branches) (some (.obj members)) :=
        admits_obj_iff.2 fun key hkey => hadmitted key (hkeys key hkey)
      exact SettledBelow.grow branches hgrows (hbelow members rfl hbefore)

theorem SettledBelow.grow : (branches : List Branch) → {members more : List (String × Value)} →
    (Value.obj members).GrowsTo (.obj more) → SettledBelow branches members →
    SettledBelow branches more
  | [], _, _, _, _ => trivial
  | (key, _, outline) :: rest, members, more, hgrows, h => by
    obtain ⟨hfirst, hrest⟩ := h
    obtain ⟨x, hx⟩ := hfirst.exists_held
    obtain ⟨y, hy, hxy⟩ := exists_grown_member hgrows hx
    rw [hx] at hfirst
    refine ⟨?_, SettledBelow.grow rest hgrows hrest⟩
    rw [hy]
    exact Settled.grow outline hxy hfirst

end

mutual

theorem settled_fill : (outline : Outline) → (held : Option Value) →
    Settled outline (some (fill outline held))
  | .leaf _, held => by simp [Settled]
  | .group branches, held => by
    simp only [Settled, Option.some.injEq, exists_eq_left']
    by_cases hadmits : Admits (keys branches) held
    · obtain ⟨members, hmembers⟩ := hadmits.exists_members
      rw [fill_group_of_admits hmembers hadmits]
      refine ⟨rfl, fun filled hfilled _ => ?_⟩
      rw [← Value.obj.inj hfilled]
      exact settledBelow_fillBelow branches members
    · rw [fill_group_of_not_admits hadmits]
      exact ⟨isNull_opened held, fun _ _ h => absurd (admits_opened.1 h) hadmits⟩

theorem settledBelow_fillBelow : (branches : List Branch) → (members : List (String × Value)) →
    SettledBelow branches (fillBelow branches members)
  | [], _ => trivial
  | (key, _, outline) :: rest, members => by
    -- The first branch is settled once it is filled, and the others only let it grow.
    have hfirst := settled_fill outline (Members.find? key members)
    have hthere := Members.find?_put_self key (fill outline (Members.find? key members)) members
    have hgrows := growsTo_fillBelow rest
      (Members.put key (fill outline (Members.find? key members)) members)
    obtain ⟨y, hy, hgrown⟩ := exists_grown_member hgrows hthere
    refine ⟨?_, settledBelow_fillBelow rest _⟩
    rw [fillBelow, hy]
    exact Settled.grow outline hgrown hfirst

end

mutual

theorem fill_of_settled : (outline : Outline) → {v : Value} → Settled outline (some v) →
    fill outline (some v) = v
  | .leaf _, v, _ => opened_leaf v
  | .group branches, v, h => by
    simp only [Settled, Option.some.injEq, exists_eq_left'] at h
    obtain ⟨hnull, hbelow⟩ := h
    have hopened : opened true (some v) = v := opened_of_not_null true hnull
    by_cases hadmits : Admits (keys branches) (some v)
    · obtain ⟨members, hmembers⟩ := hadmits.exists_members
      have hv : v = .obj members := hopened.symm.trans hmembers
      rw [fill_group_of_admits hmembers hadmits, hv,
        fillBelow_of_settled branches (hbelow members hv hadmits)]
    · rw [fill_group_of_not_admits hadmits, hopened]

theorem fillBelow_of_settled : (branches : List Branch) → {members : List (String × Value)} →
    SettledBelow branches members → fillBelow branches members = members
  | [], _, _ => rfl
  | (key, _, outline) :: rest, members, h => by
    obtain ⟨hfirst, hrest⟩ := h
    obtain ⟨x, hx⟩ := hfirst.exists_held
    rw [hx] at hfirst
    rw [fillBelow, hx, fill_of_settled outline hfirst, Members.put_find? hx,
      fillBelow_of_settled rest hrest]

end

/-! ### Filling and equality -/

mutual

theorem Settled.of_same : (outline : Outline) → {v w : Value} → v.same w = true →
    Settled outline (some v) → Settled outline (some w)
  | .leaf _, _, _, _, _ => by simp [Settled]
  | .group branches, v, w, hsame, h => by
    simp only [Settled, Option.some.injEq, exists_eq_left'] at h ⊢
    obtain ⟨hnull, hbelow⟩ := h
    refine ⟨(isNull_of_same hsame).symm.trans hnull, ?_⟩
    rintro more rfl hadmits
    obtain ⟨members, rfl, hmembers⟩ := exists_members_of_same hsame
    rw [admits_obj_iff, ← keys_of_sameMembers hmembers] at hadmits
    exact SettledBelow.of_same branches hmembers (hbelow members rfl (admits_obj_iff.2 hadmits))

theorem SettledBelow.of_same : (branches : List Branch) → {members more : List (String × Value)} →
    sameMembers members more = true → SettledBelow branches members → SettledBelow branches more
  | [], _, _, _, _ => trivial
  | (key, _, outline) :: rest, members, more, hsame, h => by
    obtain ⟨hfirst, hrest⟩ := h
    refine ⟨?_, SettledBelow.of_same rest hsame hrest⟩
    obtain ⟨x, hx⟩ := hfirst.exists_held
    obtain ⟨x', y, hx', hy, hxy⟩ | ⟨hnone, -⟩ := find?_of_sameMembers hsame key
    · rw [hx'] at hfirst
      rw [hy]
      exact Settled.of_same outline hxy hfirst
    · rw [hx] at hnone
      exact absurd hnone (Option.some_ne_none x)

end

/-- Filling that makes no difference makes none in the data either. -/
theorem fill_eq_of_same {outline : Outline} {v : Value}
    (h : (fill outline (some v)).same v = true) : fill outline (some v) = v :=
  fill_of_settled outline (Settled.of_same outline h (settled_fill outline (some v)))

theorem fill_fill (outline : Outline) (held : Option Value) :
    fill outline (some (fill outline held)) = fill outline held :=
  fill_of_settled outline (settled_fill outline held)

end Outline

/-- The value with all nodes that the schema declares and that it has room for. -/
def Schema.fill (schema : Schema) (v : Value) : Value :=
  Outline.fill (.group (Outline.ofNode schema.root)) (some v)

theorem Schema.fill_fill (schema : Schema) (v : Value) :
    schema.fill (schema.fill v) = schema.fill v :=
  Outline.fill_fill _ _

/-- A schema with a leaf and a container, for examples. -/
def Schema.sample : Schema where
  root := .obj
    [("properties", .obj
      [("a", .obj [("type", .str "string")]),
        ("b", .obj
          [("properties", .obj [("c", .obj [("type", .str "integer")])]),
            ("required", .arr [.str "c"]), ("type", .str "object")])])]
  isMapping := rfl
  check := Rule.checker (.all
    [.properties
      [("a", .all [.typed [.string]]),
        ("b", .all
          [.properties [("c", .all [.typed [.integer]])], .required ["c"], .typed [.object]])]])

example : Schema.compile Schema.sample.root = .ok .sample := rfl

theorem Schema.ordered_sample : Schema.sample.root.Ordered := by
  simp only [Schema.sample, Value.Ordered, Value.OrderedMembers, Value.OrderedItems]
  decide

end FormTree
