import FormTree.Form.Plan
import FormTree.Proofs.Form.Fill
import FormTree.Proofs.Tree.Materialization

/-!
# What planning builds

Planning for editing under a schema walks the outline with the whole value on its desk and opens one
node after the other by its path. It comes to filling the root: a stretch of the plan replaces the
mapping it is drawn below by the filled one (`value_stretch`), and the whole walk leaves the filled
value on the desk (`value_rootStretch`). Planning in any other way leaves the value as it is.
-/

namespace FormTree

open Value Child

namespace Plan

open Outline

variable {frame : Frame} {v w : Value} {path : KeyPath} {key : String} {required : Bool}
  {branches : List Branch} {desk : Desk} {members : List (String × Value)}

/-! ### The walk, one branch at a time -/

theorem branchStretch_leaf {kind : InputKind} {made : Bool}
    (h : prepare frame desk.value path false = (v, .ok made)) :
    branchStretch frame path key required (.leaf kind) desk =
      ⟨[leafRow frame path key required kind v (desk.findings.take (Dotted.encode path)).1], [],
        ⟨v, (desk.findings.take (Dotted.encode path)).2⟩⟩ := by
  rw [branchStretch, h]

theorem branchStretch_group_of_fault {made : Bool} {fault : FieldError}
    (h : prepare frame desk.value path true = (v, .ok made))
    (hfault : objection? v (keys branches) path = some fault) :
    branchStretch frame path key required (.group branches) desk =
      ⟨[groupRow frame path key required (desk.findings.take (Dotted.encode path)).1 (some fault)],
        [mismatch path fault], ⟨v, (desk.findings.take (Dotted.encode path)).2⟩⟩ := by
  rw [branchStretch, h]
  simp only [hfault]

theorem branchStretch_group_of_admits {made : Bool}
    (h : prepare frame desk.value path true = (v, .ok made))
    (hfault : objection? v (keys branches) path = none) :
    branchStretch frame path key required (.group branches) desk =
      let below := stretch frame path branches
        ⟨v, (desk.findings.take (Dotted.encode path)).2⟩
      ⟨groupRow frame path key required (desk.findings.take (Dotted.encode path)).1 none ::
        below.rows, below.mismatches, below.desk⟩ := by
  rw [branchStretch, h]
  simp only [hfault]

/-! ### What building leaves on the desk -/

theorem prepare_of_builds (hbuilds : frame.builds = true) (container : Bool) :
    prepare frame v path container = v.materialize path container := by
  rw [prepare, if_pos hbuilds]

theorem prepare_of_not_builds (hbuilds : frame.builds = false) (container : Bool) :
    prepare frame v path container = (v, .ok false) := by
  rw [prepare, if_neg (by simp [hbuilds])]

/-- One key below a mapping is opened, and the mapping is replaced. -/
theorem prepare_concat (hbuilds : frame.builds = true) (h : v.get? path = some (.obj members))
    (container : Bool) (key : String) :
    ∃ w made, prepare frame v (path ++ [key]) container = (w, .ok made) ∧
      v.replace? path
        (.obj (Members.put key (opened container (Members.find? key members)) members)) =
          some w := by
  rw [prepare_of_builds hbuilds]
  exact materialize_concat h container key

mutual

theorem value_branchStretch (hbuilds : frame.builds = true) :
    (outline : Outline) → (path : KeyPath) → (key : String) → (required : Bool) → (desk : Desk) →
    {members : List (String × Value)} → desk.value.get? path = some (.obj members) →
    desk.value.replace? path
      (.obj (Members.put key (fill outline (Members.find? key members)) members)) =
        some (branchStretch frame (path ++ [key]) key required outline desk).desk.value
  | .leaf kind, path, key, required, desk, members, h => by
    obtain ⟨w, made, hprepare, hreplace⟩ := prepare_concat hbuilds h false key
    rw [branchStretch_leaf hprepare]
    exact hreplace
  | .group branches, path, key, required, desk, members, h => by
    obtain ⟨w, made, hprepare, hreplace⟩ := prepare_concat hbuilds h true key
    have hheld : w.get? (path ++ [key]) =
        some (opened true (Members.find? key members)) := by
      rw [get?_concat_replace? hreplace, Members.find?_put_self]
    have hobjection : objection? w (keys branches) (path ++ [key]) =
        objectionTo? (Members.find? key members) (keys branches) (path ++ [key]) := by
      rw [objection?_eq, hheld, objectionTo?_opened]
    cases hfault : objectionTo? (Members.find? key members) (keys branches) (path ++ [key]) with
    | some fault =>
      have hnot : ¬ Admits (keys branches) (Members.find? key members) :=
        not_admits_of_objectionTo? hfault
      rw [branchStretch_group_of_fault hprepare (hobjection.trans hfault),
        fill_group_of_not_admits hnot]
      exact hreplace
    | none =>
      have hadmits := objectionTo?_eq_none_iff.1 hfault
      obtain ⟨inner, hinner⟩ := hadmits.exists_members
      have hmapping : w.get? (path ++ [key]) = some (.obj inner) := by rw [hheld, hinner]
      have hparent : w.get? path =
          some (.obj (Members.put key (opened true (Members.find? key members)) members)) :=
        get?_replace? hreplace
      have hthere : Members.has key
          (Members.put key (opened true (Members.find? key members)) members) = true :=
        Members.has_eq_true_iff.2 ⟨_, Members.find?_put_self _ _ _⟩
      rw [branchStretch_group_of_admits hprepare (hobjection.trans hfault),
        fill_group_of_admits hinner hadmits]
      have hbelow := value_stretch hbuilds branches (path ++ [key])
        ⟨w, (desk.findings.take (Dotted.encode (path ++ [key]))).2⟩ hmapping
      rw [replace?_concat hparent hthere, Members.put_put, replace?_replace? hreplace] at hbelow
      exact hbelow

theorem value_stretch (hbuilds : frame.builds = true) :
    (branches : List Branch) → (path : KeyPath) → (desk : Desk) →
    {members : List (String × Value)} → desk.value.get? path = some (.obj members) →
    desk.value.replace? path (.obj (fillBelow branches members)) =
      some (stretch frame path branches desk).desk.value
  | [], path, desk, members, h => replace?_get? h
  | (key, required, outline) :: rest, path, desk, members, h => by
    have hfirst := value_branchStretch hbuilds outline path key required desk h
    have hrest := value_stretch hbuilds rest path
      (branchStretch frame (path ++ [key]) key required outline desk).desk (get?_replace? hfirst)
    rw [replace?_replace? hfirst] at hrest
    rw [fillBelow, stretch]
    exact hrest

end

mutual

theorem value_branchStretch_of_not_builds (hbuilds : frame.builds = false) :
    (outline : Outline) → (path : KeyPath) → (key : String) → (required : Bool) → (desk : Desk) →
    (branchStretch frame path key required outline desk).desk.value = desk.value
  | .leaf kind, path, key, required, desk => by
    rw [branchStretch_leaf (prepare_of_not_builds hbuilds false)]
  | .group branches, path, key, required, desk => by
    have hprepare := @prepare_of_not_builds frame desk.value path hbuilds true
    cases hfault : objection? desk.value (keys branches) path with
    | some fault => rw [branchStretch_group_of_fault hprepare hfault]
    | none =>
      rw [branchStretch_group_of_admits hprepare hfault]
      exact value_stretch_of_not_builds hbuilds branches path _

theorem value_stretch_of_not_builds (hbuilds : frame.builds = false) :
    (branches : List Branch) → (path : KeyPath) → (desk : Desk) →
    (stretch frame path branches desk).desk.value = desk.value
  | [], path, desk => rfl
  | (key, required, outline) :: rest, path, desk => by
    rw [stretch]
    exact (value_stretch_of_not_builds hbuilds rest path _).trans
      (value_branchStretch_of_not_builds hbuilds outline _ key required desk)

end

/-! ### The whole form -/

theorem prepare_root (frame : Frame) (v : Value) : ∃ made, prepare frame v [] true =
    (if frame.builds then opened true (some v) else v, .ok made) := by
  cases hbuilds : frame.builds with
  | false => exact ⟨false, prepare_of_not_builds hbuilds true⟩
  | true =>
    rw [prepare_of_builds hbuilds]
    exact materialize_root v

theorem rootStretch_group_of_fault {made : Bool} {fault : FieldError}
    (h : prepare frame desk.value [] true = (v, .ok made))
    (hfault : objection? v (keys branches) [] = some fault) :
    rootStretch frame (.group branches) desk =
      ⟨[], [mismatch [] fault], { desk with value := v }⟩ := by
  rw [rootStretch, h]
  simp only [hfault, List.nil_append]

theorem rootStretch_group_of_admits {made : Bool}
    (h : prepare frame desk.value [] true = (v, .ok made))
    (hfault : objection? v (keys branches) [] = none) :
    rootStretch frame (.group branches) desk =
      stretch frame [] branches { desk with value := v } := by
  rw [rootStretch, h]
  simp only [hfault, List.nil_append]

theorem value_rootStretch (hbuilds : frame.builds = true) (branches : List Branch) (desk : Desk) :
    (rootStretch frame (.group branches) desk).desk.value =
      fill (.group branches) (some desk.value) := by
  obtain ⟨made, hprepare⟩ := prepare_root frame desk.value
  rw [if_pos hbuilds] at hprepare
  have hobjection : objection? (opened true (some desk.value)) (keys branches) [] =
      objectionTo? (some desk.value) (keys branches) [] :=
    objectionTo?_opened (some desk.value) (keys branches) []
  cases hfault : objectionTo? (some desk.value) (keys branches) [] with
  | some fault =>
    have hnot : ¬ Admits (keys branches) (some desk.value) := not_admits_of_objectionTo? hfault
    rw [rootStretch_group_of_fault hprepare (hobjection.trans hfault),
      fill_group_of_not_admits hnot]
  | none =>
    have hadmits := objectionTo?_eq_none_iff.1 hfault
    obtain ⟨members, hmembers⟩ := hadmits.exists_members
    have hbelow := value_stretch hbuilds branches []
      { desk with value := opened true (some desk.value) } (congrArg some hmembers)
    rw [replace?_nil, Option.some.injEq] at hbelow
    rw [rootStretch_group_of_admits hprepare (hobjection.trans hfault),
      fill_group_of_admits hmembers hadmits, hbelow]

end Plan

namespace Plan

variable {v : Value} {findings : List Finding} {settings : Settings}

/-- What is created depends on value and schema alone, not on the findings. -/
theorem materialized_edit (schema : Schema) :
    (make v (some schema) .edit findings settings).materialized =
      if (schema.fill v).same v then none else some (schema.fill v) := by
  have hbuilds : Frame.builds ⟨.edit, true, settings⟩ = true := rfl
  have hvalue := value_rootStretch hbuilds (Outline.ofNode schema.root) ⟨v, .ofFindings findings⟩
  simp only [make, Outline.of, Option.isSome_some, hvalue, hbuilds, Bool.true_and]
  rw [Schema.fill]
  cases (Outline.fill (.group (Outline.ofNode schema.root)) (some v)).same v <;> rfl

theorem materialized_read (schema : Option Schema) :
    (make v schema .read findings settings).materialized = none := rfl

theorem materialized_free (mode : Mode) :
    (make v none mode findings settings).materialized = none := by
  cases mode <;> rfl

end Plan

end FormTree
