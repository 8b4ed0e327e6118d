import FormTree.Proofs.Path.Escape

/-!
# Structural pointers

A structural pointer and the value path that it governs determine each other. Only the written
pointer of a path is read as the path; a `/` that is missing in front is the only liberty
(`parseStructural_eq_ok_iff`). A pointer whose keys do not alternate with wrappers is refused with
the text that was given (`structural_pointers_are_value_paths`).
-/

namespace FormTree

theorem isStructural_iff (tokens : List String) : IsStructural tokens ↔
    tokens.length % 2 = 0 ∧
      ∀ i token, i % 2 = 0 → tokens[i]? = some token → token = Pointer.wrapper := by
  fun_induction IsStructural tokens with
  | case1 => simp
  | case2 => simp
  | case3 token key rest ih =>
    have hlength : (token :: key :: rest).length % 2 = rest.length % 2 := Nat.add_mod_right _ 2
    rw [ih, hlength]
    constructor
    · intro h
      obtain ⟨hwrapper, heven, hrest⟩ := h
      refine ⟨heven, ?_⟩
      intro i other hi hother
      rcases i with _ | _ | i
      · exact (Option.some.inj hother).symm.trans hwrapper
      · cases hi
      · exact hrest i other (by omega) hother
    · intro h
      obtain ⟨heven, hall⟩ := h
      refine ⟨hall 0 token rfl rfl, heven, ?_⟩
      intro i other hi hother
      exact hall (i + 2) other (by omega) hother

namespace Pointer

/-- The pointer as it is read: a `/` is put in front where one is missing, unless there is nothing
to put it in front of. -/
def absolute (pointer : String) : String :=
  if pointer = "" ∨ pointer.toList.head? = some '/' then pointer else "/" ++ pointer

theorem parseStructural_eq (pointer : String) : parseStructural pointer =
    (parse (absolute pointer)).bind fun tokens =>
      if IsStructural tokens then .ok (valuePath tokens) else .error (.notStructural pointer) := by
  have hchars : (absolute pointer).toList =
      if pointer.toList.isEmpty ∨ pointer.toList.head? = some '/' then pointer.toList
      else '/' :: pointer.toList := by
    rw [absolute, apply_ite String.toList]
    simp
  rw [parse, hchars]
  rfl

/-- A structural pointer is read as a path exactly if it is written for the path, but for a missing
`/` in front. -/
theorem parseStructural_eq_ok_iff {pointer : String} {path : List String} :
    parseStructural pointer = .ok path ↔ formatStructural path = absolute pointer := by
  rw [parseStructural_eq, except_bind_eq_ok, formatStructural]
  constructor
  · intro hread
    obtain ⟨tokens, htokens, hpath⟩ := hread
    split at hpath
    · next hstructural =>
      obtain rfl := Except.ok.inj hpath
      rw [structuralPath_valuePath hstructural]
      exact (parse_eq_ok_iff.1 htokens).symm
    · cases hpath
  · intro hwritten
    refine ⟨structuralPath path, parse_eq_ok_iff.2 hwritten.symm, ?_⟩
    rw [if_pos (isStructural_structuralPath path), valuePath_structuralPath]

/-- Every path is read back from its structural pointer, and what is read as a path is exactly its
pointer, with or without the `/` in front. Tokens that are of odd number, or have something else
than a wrapper at an even place, are refused with the text that was given. -/
theorem structural_pointers_are_value_paths :
    (∀ path : List String, parseStructural (formatStructural path) = .ok path) ∧
    (∀ (pointer : String) (path : List String), parseStructural pointer = .ok path ↔
      formatStructural path =
        if pointer = "" ∨ pointer.toList.head? = some '/' then pointer else "/" ++ pointer) ∧
    ∀ (pointer : String) (tokens : List String), parse (absolute pointer) = .ok tokens →
      (parseStructural pointer = .error (.notStructural pointer) ↔
        tokens.length % 2 = 1 ∨
          ∃ i token, i % 2 = 0 ∧ tokens[i]? = some token ∧ token ≠ wrapper) := by
  refine ⟨parseStructural_formatStructural, ?_, ?_⟩
  · intro pointer path
    exact parseStructural_eq_ok_iff
  · intro pointer tokens htokens
    have hrefused : parseStructural pointer = .error (.notStructural pointer) ↔
        ¬ IsStructural tokens := by
      rw [parseStructural_eq, htokens, Except.bind]
      split <;> simp_all
    rw [hrefused, isStructural_iff, not_and_or, Nat.mod_two_not_eq_zero]
    simp only [not_forall, exists_prop, ne_eq]

example : parseStructural "properties/properties/properties/~1" = .ok ["properties", "/"] ∧
    parseStructural "properties/a/items" = .error (.notStructural "properties/a/items") := by
  decide

end Pointer

end FormTree
