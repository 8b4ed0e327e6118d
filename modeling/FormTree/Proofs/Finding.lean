import FormTree.Finding
import FormTree.Proofs.Value.Lookup
import Mathlib.Data.List.Basic
import Mathlib.Data.List.Dedup
import Mathlib.Data.List.Nodup

/-!
# Findings by row

A projection is seen through `group`, the findings that it still holds for a row. What is projected
from a list of findings holds for each row the findings that concern it, in their order; handing a
row out empties its group and touches no other. A row is known only as long as something is held for
it, so what remains when some rows have been handed out can be listed: the findings without a row,
then row by row those that nobody asked for (`remaining_takeAll_eq`). These are the findings that
concern none of the rows, each as often as it was there (`remaining_takeAll`), and what was handed
out are the others (`findings_are_handed_out_once`).
-/

namespace FormTree

namespace Members

variable {α : Type} {members : List (String × α)}

theorem Ordered.nodup_keys (h : Ordered members) : (keys members).Nodup := by
  refine List.Pairwise.imp ?_ h
  intro first second hlt heq
  exact String.lt_irrefl _ (heq ▸ hlt)

theorem find?_of_mem {key : String} {v : α} (hnodup : (keys members).Nodup)
    (h : (key, v) ∈ members) : find? key members = some v := by
  induction members with
  | nil => exact absurd h List.not_mem_nil
  | cons entry rest ih =>
    obtain ⟨k, w⟩ := entry
    obtain ⟨hk, hrest⟩ := List.nodup_cons.1 hnodup
    rcases List.mem_cons.1 h with heq | hmem
    · obtain ⟨rfl, rfl⟩ := Prod.mk.inj heq
      simp only [find?, if_true]
    · have hkey : key ∈ keys rest := List.mem_map_of_mem hmem
      have hne : ¬ k = key := fun heq => hk (heq ▸ hkey)
      rw [find?, if_neg hne, ih hrest hmem]

theorem mem_of_find? {key : String} {v : α} (h : find? key members = some v) :
    (key, v) ∈ members := by
  induction members with
  | nil => simp at h
  | cons entry rest ih =>
    obtain ⟨k, w⟩ := entry
    by_cases hk : k = key
    · rw [find?, if_pos hk, Option.some.injEq] at h
      rw [hk, h]
      exact List.mem_cons_self
    · rw [find?, if_neg hk] at h
      exact List.mem_cons_of_mem _ (ih h)

theorem mem_iff_find? {key : String} {v : α} (hnodup : (keys members).Nodup) :
    (key, v) ∈ members ↔ find? key members = some v :=
  ⟨find?_of_mem hnodup, mem_of_find?⟩

theorem flatMap_snd {β : Type} {members : List (String × List β)}
    (hnodup : (keys members).Nodup) :
    members.flatMap Prod.snd = (keys members).flatMap fun key => (find? key members).getD [] := by
  rw [keys, List.flatMap_map]
  refine List.flatMap_congr fun entry hentry => ?_
  rw [find?_of_mem hnodup hentry, Option.getD_some]

end Members

theorem filter_append_filter_perm {α : Type} {items : List α} {p q r : α → Bool}
    (heither : ∀ x ∈ items, r x = true ↔ p x = true ∨ q x = true)
    (hone : ∀ x ∈ items, ¬ (p x = true ∧ q x = true)) :
    (items.filter p ++ items.filter q).Perm (items.filter r) := by
  have hfirst : (items.filter r).filter p = items.filter p := by
    rw [List.filter_filter]
    exact List.filter_congr fun x hx => by grind
  have hsecond : (items.filter r).filter (fun x => !p x) = items.filter q := by
    rw [List.filter_filter]
    exact List.filter_congr fun x hx => by grind
  have hsplit := List.filter_append_perm p (items.filter r)
  rwa [hfirst, hsecond] at hsplit

namespace Finding

/-- The pointer of the finding addresses a property, and `row` is the dotted path of what that
property governs. -/
def Concerns (finding : Finding) (row : String) : Prop :=
  ∃ path, Pointer.parseStructural finding.path = .ok path ∧ path ≠ [] ∧ Dotted.encode path = row

theorem row?_eq_some_iff {finding : Finding} {row : String} :
    finding.row? = some row ↔ finding.Concerns row := by
  rw [row?, Concerns]
  cases Pointer.parseStructural finding.path with
  | error fault => simp
  | ok path => cases path <;> simp

/-- The pointer of the finding addresses no property: it is that of the root, or no structural
pointer at all. -/
def IsUnmapped (finding : Finding) : Prop :=
  ∀ path, Pointer.parseStructural finding.path = .ok path → path = []

theorem row?_eq_none_iff {finding : Finding} : finding.row? = none ↔ finding.IsUnmapped := by
  rw [row?, IsUnmapped]
  cases Pointer.parseStructural finding.path with
  | error fault => simp
  | ok path => cases path <;> simp

theorem Concerns.unique {finding : Finding} {row other : String} (h : finding.Concerns row)
    (hother : finding.Concerns other) : row = other := by
  rw [← row?_eq_some_iff] at h hother
  exact Option.some.inj (h.symm.trans hother)

theorem IsUnmapped.not_concerns {finding : Finding} {row : String} (h : finding.IsUnmapped) :
    ¬ finding.Concerns row := by
  intro hconcerns
  obtain ⟨path, hpath, hne, -⟩ := hconcerns
  exact hne (h path hpath)

theorem isUnmapped_or_concerns (finding : Finding) :
    finding.IsUnmapped ∨ ∃ row, finding.Concerns row := by
  cases hrow : finding.row? with
  | none => exact .inl (row?_eq_none_iff.1 hrow)
  | some row => exact .inr ⟨row, row?_eq_some_iff.1 hrow⟩

instance (finding : Finding) (row : String) : Decidable (finding.Concerns row) :=
  decidable_of_iff (finding.row? = some row) row?_eq_some_iff

instance (finding : Finding) : Decidable finding.IsUnmapped :=
  decidable_of_iff (finding.row? = none) row?_eq_none_iff

end Finding

/-- The findings that concern one row, in their order. -/
def findingsOn (row : String) (findings : List Finding) : List Finding :=
  findings.filter fun finding => finding.Concerns row

namespace Projection

variable {projection : Projection} {finding : Finding} {findings : List Finding} {row : String}

/-- The findings that are held for a row. -/
def group (projection : Projection) (row : String) : List Finding :=
  (Members.find? row projection.byPath).getD []

/-! ### Projecting -/

theorem unmapped_add (projection : Projection) (finding : Finding) :
    (projection.add finding).unmapped =
      projection.unmapped ++ if finding.row? = none then [finding] else [] := by
  rw [add]
  split
  · next h => rw [if_pos h]
  · next h =>
    rw [h, if_neg (Option.some_ne_none _), List.append_nil]

theorem group_add (projection : Projection) (finding : Finding) (row : String) :
    (projection.add finding).group row =
      projection.group row ++ if finding.Concerns row then [finding] else [] := by
  rw [add]
  split
  · next h =>
    have hnot : ¬ finding.Concerns row := by
      rw [← Finding.row?_eq_some_iff, h]
      exact (Option.some_ne_none row).symm
    rw [if_neg hnot, List.append_nil]
    rfl
  · next own h =>
    have hconcerns : finding.Concerns row ↔ own = row := by
      rw [← Finding.row?_eq_some_iff, h, Option.some.injEq]
    by_cases hrow : own = row
    · rw [if_pos (hconcerns.2 hrow), ← hrow]
      simp only [group, Members.find?_put_self, Option.getD_some]
    · rw [if_neg (mt hconcerns.1 hrow), List.append_nil]
      simp only [group, Members.find?_put_of_ne _ _ (Ne.symm hrow)]

theorem ordered_add (h : Members.Ordered projection.byPath) (finding : Finding) :
    Members.Ordered (projection.add finding).byPath := by
  rw [add]
  split
  · exact h
  · exact h.put _ _

theorem unmapped_foldl_add (projection : Projection) (findings : List Finding) :
    (findings.foldl add projection).unmapped =
      projection.unmapped ++ findings.filter fun finding => finding.row? = none := by
  induction findings generalizing projection with
  | nil => exact (List.append_nil _).symm
  | cons finding rest ih =>
    rw [List.foldl_cons, ih, unmapped_add, List.filter_cons, List.append_assoc]
    split <;> simp_all

theorem group_foldl_add (projection : Projection) (findings : List Finding) (row : String) :
    (findings.foldl add projection).group row =
      projection.group row ++ findingsOn row findings := by
  induction findings generalizing projection with
  | nil => exact (List.append_nil _).symm
  | cons finding rest ih =>
    rw [List.foldl_cons, ih, group_add, findingsOn, findingsOn, List.filter_cons, List.append_assoc]
    split <;> simp_all

/-- What holds at first, and what each finding that is added keeps, holds of the whole. -/
theorem ofFindings_keeps {P : Projection → Prop} (hempty : P empty)
    (hadd : ∀ {projection}, P projection → ∀ finding, P (projection.add finding))
    (findings : List Finding) : P (ofFindings findings) := by
  rw [ofFindings]
  generalize empty = projection at hempty
  induction findings generalizing projection with
  | nil => exact hempty
  | cons finding rest ih => exact ih _ (hadd hempty finding)

theorem unmapped_ofFindings (findings : List Finding) :
    (ofFindings findings).unmapped = findings.filter fun finding => finding.row? = none :=
  unmapped_foldl_add empty findings

theorem group_ofFindings (findings : List Finding) (row : String) :
    (ofFindings findings).group row = findingsOn row findings :=
  group_foldl_add empty findings row

theorem ordered_ofFindings (findings : List Finding) :
    Members.Ordered (ofFindings findings).byPath :=
  ofFindings_keeps (P := fun projection => Members.Ordered projection.byPath) List.Pairwise.nil
    ordered_add findings

/-! ### Handing out -/

theorem take_fst (projection : Projection) (row : String) :
    (projection.take row).1 = (projection.group row).map Finding.message := rfl

theorem group_take_self (projection : Projection) (row : String) :
    (projection.take row).2.group row = [] := by
  simp only [take, group, Members.find?_remove_self, Option.getD_none]

theorem group_take_of_ne (projection : Projection) {other : String} (h : other ≠ row) :
    (projection.take row).2.group other = projection.group other := by
  simp only [take, group, Members.find?_remove_of_ne _ h]

theorem ordered_take (h : Members.Ordered projection.byPath) (row : String) :
    Members.Ordered (projection.take row).2.byPath :=
  h.remove row

theorem takeAll_cons (projection : Projection) (row : String) (rest : List String) :
    projection.takeAll (row :: rest) =
      ((projection.take row).1 :: ((projection.take row).2.takeAll rest).1,
        ((projection.take row).2.takeAll rest).2) := rfl

theorem length_takeAll (projection : Projection) (rows : List String) :
    (projection.takeAll rows).1.length = rows.length := by
  induction rows generalizing projection with
  | nil => rfl
  | cons row rest ih => rw [takeAll_cons, List.length_cons, ih, List.length_cons]

theorem takeAll_append (projection : Projection) (first second : List String) :
    projection.takeAll (first ++ second) =
      ((projection.takeAll first).1 ++ ((projection.takeAll first).2.takeAll second).1,
        ((projection.takeAll first).2.takeAll second).2) := by
  induction first generalizing projection with
  | nil => rfl
  | cons row rest ih => simp only [List.cons_append, takeAll_cons, ih]

theorem takeAll_fst {rows : List String} (hnodup : rows.Nodup) (projection : Projection) :
    (projection.takeAll rows).1 =
      rows.map fun row => (projection.group row).map Finding.message := by
  induction rows generalizing projection with
  | nil => rfl
  | cons row rest ih =>
    obtain ⟨hrow, hrest⟩ := List.nodup_cons.1 hnodup
    rw [takeAll_cons, ih hrest, take_fst, List.map_cons]
    have hothers : ∀ other ∈ rest,
        (projection.take row).2.group other = projection.group other := fun other hother =>
      group_take_of_ne projection fun heq => hrow (heq ▸ hother)
    exact congrArg _ (List.map_congr_left fun other hother => by rw [hothers other hother])

theorem group_takeAll (projection : Projection) (rows : List String) (row : String) :
    (projection.takeAll rows).2.group row = if row ∈ rows then [] else projection.group row := by
  induction rows generalizing projection with
  | nil => rfl
  | cons first rest ih =>
    rw [takeAll_cons, ih]
    by_cases hfirst : row = first
    · rw [hfirst, group_take_self, if_pos List.mem_cons_self]
      exact ite_self _
    · rw [group_take_of_ne projection hfirst]
      simp only [List.mem_cons, hfirst, false_or]

theorem takeAll_keeps {P : Projection → Prop}
    (htake : ∀ {projection}, P projection → ∀ row, P (projection.take row).2)
    (h : P projection) (rows : List String) : P (projection.takeAll rows).2 := by
  induction rows generalizing projection with
  | nil => exact h
  | cons row rest ih => exact ih (htake h row)

theorem unmapped_takeAll (projection : Projection) (rows : List String) :
    (projection.takeAll rows).2.unmapped = projection.unmapped :=
  takeAll_keeps (P := fun left => left.unmapped = projection.unmapped) (fun h _ => h) rfl rows

theorem ordered_takeAll (h : Members.Ordered projection.byPath) (rows : List String) :
    Members.Ordered (projection.takeAll rows).2.byPath :=
  takeAll_keeps (P := fun left => Members.Ordered left.byPath) ordered_take h rows

/-- The first time that a row is asked for, it gets what is held for it. -/
theorem takeAll_fst_eq (projection : Projection) (rows : List String) :
    (projection.takeAll rows).1 = rows.mapIdx fun i row =>
      if row ∈ rows.take i then [] else (projection.group row).map Finding.message := by
  induction rows generalizing projection with
  | nil => rfl
  | cons first rest ih =>
    rw [takeAll_cons, ih, List.mapIdx_cons]
    have hlater : ∀ (i : Nat) (row : String),
        (if row ∈ rest.take i then []
          else ((projection.take first).2.group row).map Finding.message) =
          if row ∈ (first :: rest).take (i + 1) then []
          else (projection.group row).map Finding.message := by
      intro i row
      rw [List.take_succ_cons]
      by_cases hrow : row = first
      · rw [hrow, group_take_self, if_pos List.mem_cons_self]
        exact ite_self _
      · simp only [group_take_of_ne projection hrow, List.mem_cons, hrow, false_or]
    simp only [hlater]
    rfl

/-! ### What is known -/

/-- Something is held for every row that is known. -/
def NoneVacant (projection : Projection) : Prop :=
  ∀ row, Members.find? row projection.byPath ≠ some []

theorem noneVacant_add (h : projection.NoneVacant) (finding : Finding) :
    (projection.add finding).NoneVacant := by
  rw [add]
  split
  · exact h
  · next own hrow =>
    intro row
    by_cases heq : row = own
    · simp [heq]
    · simpa [Members.find?_put_of_ne _ _ heq] using h row

theorem noneVacant_ofFindings (findings : List Finding) : (ofFindings findings).NoneVacant :=
  ofFindings_keeps (fun _ => nofun) noneVacant_add findings

theorem noneVacant_take (h : projection.NoneVacant) (row : String) :
    (projection.take row).2.NoneVacant := by
  intro other
  by_cases heq : other = row
  · simp [take, heq]
  · simpa [take, Members.find?_remove_of_ne _ heq] using h other

theorem mem_keys_iff (h : projection.NoneVacant) :
    row ∈ Members.keys projection.byPath ↔ projection.group row ≠ [] := by
  rw [← Members.has_iff_mem_keys, Members.has_eq_true_iff, group]
  have hrow := h row
  cases hfind : Members.find? row projection.byPath with
  | none => simp
  | some held => simpa [hfind] using hrow

/-! ### What remains -/

theorem remaining_eq (h : Members.Ordered projection.byPath) : projection.remaining =
    projection.unmapped ++ (Members.keys projection.byPath).flatMap projection.group := by
  rw [remaining, Members.flatMap_snd h.nodup_keys]
  rfl

theorem flatMap_findingsOn_perm {rows : List String} (hnodup : rows.Nodup)
    (findings : List Finding) : (rows.flatMap (findingsOn · findings)).Perm
      (findings.filter fun finding => ∃ row ∈ rows, finding.Concerns row) := by
  induction rows with
  | nil => simp
  | cons row rest ih =>
    obtain ⟨hrow, hrest⟩ := List.nodup_cons.1 hnodup
    rw [List.flatMap_cons]
    refine ((ih hrest).append_left _).trans ?_
    refine filter_append_filter_perm (fun finding _ => ?_) fun finding _ => ?_
    · simp
    · simp only [decide_eq_true_eq, not_and, not_exists]
      intro hfirst other hother hconcerns
      exact hrow (hfirst.unique hconcerns ▸ hother)

theorem group_takeAll_ofFindings (findings : List Finding) (rows : List String) (row : String) :
    ((ofFindings findings).takeAll rows).2.group row =
      if row ∈ rows then [] else findingsOn row findings := by
  rw [group_takeAll, group_ofFindings]

theorem mem_keys_takeAll {rows : List String} :
    row ∈ Members.keys ((ofFindings findings).takeAll rows).2.byPath ↔
      row ∉ rows ∧ ∃ finding ∈ findings, finding.Concerns row := by
  have hheld := takeAll_keeps noneVacant_take (noneVacant_ofFindings findings) rows
  rw [mem_keys_iff hheld, group_takeAll_ofFindings]
  by_cases hrow : row ∈ rows
  · simp [hrow]
  · simp [hrow, findingsOn]

/-- When some rows were handed out, the findings without a row remain, and those on the rows that
are still known. -/
theorem remaining_takeAll_eq (findings : List Finding) (rows : List String) :
    let left := ((ofFindings findings).takeAll rows).2
    left.remaining = findings.filter (fun finding => finding.IsUnmapped) ++
      (Members.keys left.byPath).flatMap (findingsOn · findings) := by
  intro left
  have hordered : Members.Ordered left.byPath := ordered_takeAll (ordered_ofFindings findings) rows
  have hunmapped : left.unmapped = findings.filter fun finding => finding.IsUnmapped := by
    rw [unmapped_takeAll, unmapped_ofFindings]
    simp only [Finding.row?_eq_none_iff]
  rw [remaining_eq hordered, hunmapped]
  refine congrArg _ (List.flatMap_congr fun row hrow => ?_)
  rw [group_takeAll_ofFindings, if_neg (mem_keys_takeAll.1 hrow).1]

theorem remaining_takeAll (findings : List Finding) (rows : List String) :
    ((ofFindings findings).takeAll rows).2.remaining.Perm
      (findings.filter fun finding => ∀ row ∈ rows, ¬ finding.Concerns row) := by
  have hordered := ordered_takeAll (ordered_ofFindings findings) rows
  rw [remaining_takeAll_eq]
  refine ((flatMap_findingsOn_perm hordered.nodup_keys findings).append_left _).trans ?_
  apply filter_append_filter_perm
  · intro finding hfinding
    simp only [decide_eq_true_eq, mem_keys_takeAll]
    constructor
    · intro hnone
      refine finding.isUnmapped_or_concerns.imp_right fun hsome => ?_
      obtain ⟨row, hrow⟩ := hsome
      exact ⟨row, ⟨fun hrows => hnone row hrows hrow, finding, hfinding, hrow⟩, hrow⟩
    · intro heither row hrows hrow
      rcases heither with hunmapped | ⟨other, ⟨hother, -⟩, hconcerns⟩
      · exact hunmapped.not_concerns hrow
      · exact hother (hrow.unique hconcerns ▸ hrows)
  · intro finding _
    simp only [decide_eq_true_eq, not_and, not_exists]
    intro hunmapped row _
    exact hunmapped.not_concerns

/-- What concerns some rows and what concerns none of them make up all the findings. -/
theorem perm_findingsOn_append {rows : List String} {rest : List Finding} (hnodup : rows.Nodup)
    (hrest : rest.Perm (findings.filter fun finding => ∀ row ∈ rows, ¬ finding.Concerns row)) :
    findings.Perm (rows.flatMap (findingsOn · findings) ++ rest) := by
  have hsplit := findings.filter_append_perm fun finding =>
    decide (∃ row ∈ rows, finding.Concerns row)
  have hnone : (findings.filter fun finding => !decide (∃ row ∈ rows, finding.Concerns row)) =
      findings.filter fun finding => ∀ row ∈ rows, ¬ finding.Concerns row := by
    refine List.filter_congr fun finding _ => ?_
    rw [← decide_not]
    exact decide_eq_decide.2 (by simp)
  rw [hnone] at hsplit
  exact hsplit.symm.trans ((flatMap_findingsOn_perm hnodup findings).symm.append hrest.symm)

/-- Whatever is asked for, and however often: a row gets the messages of the findings that concern
it, in their order, the first time that it is asked for, and nothing later. What remains are first
the findings whose pointer addresses no property, then by row, in order, the findings on the rows
that were not asked for. With what was handed out these are all the findings, each once. -/
theorem findings_are_handed_out_once (findings : List Finding) (rows : List String) :
    let (handed, left) := (ofFindings findings).takeAll rows
    handed = rows.mapIdx (fun i row => if row ∈ rows.take i then []
        else (findings.filter fun finding => finding.Concerns row).map Finding.message) ∧
      (∃ paths : List String, paths.Pairwise (· < ·) ∧
        (∀ path, path ∈ paths ↔ path ∉ rows ∧ ∃ finding ∈ findings, finding.Concerns path) ∧
        left.remaining = (findings.filter fun finding => finding.IsUnmapped) ++
          paths.flatMap fun path => findings.filter fun finding => finding.Concerns path) ∧
      findings.Perm
        (rows.dedup.flatMap (fun row => findings.filter fun finding => finding.Concerns row) ++
          left.remaining) := by
  refine ⟨?_, ⟨Members.keys ((ofFindings findings).takeAll rows).2.byPath, ?_, ?_, ?_⟩, ?_⟩
  · rw [takeAll_fst_eq]
    simp only [group_ofFindings]
    rfl
  · exact ordered_takeAll (ordered_ofFindings findings) rows
  · intro path
    exact mem_keys_takeAll
  · exact remaining_takeAll_eq findings rows
  · apply perm_findingsOn_append rows.nodup_dedup
    simpa only [List.mem_dedup] using remaining_takeAll findings rows

example :
    let (handed, left) := (ofFindings [⟨"/properties/b", "long", none⟩, ⟨"/items/b", "odd", none⟩,
      ⟨"properties/a", "short", none⟩, ⟨"/properties/b", "late", none⟩]).takeAll ["b", "c", "b"]
    handed = [["long", "late"], [], []] ∧
      left.remaining = [⟨"/items/b", "odd", none⟩, ⟨"properties/a", "short", none⟩] := by decide

end Projection

end FormTree
