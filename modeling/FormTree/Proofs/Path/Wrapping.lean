import FormTree.Proofs.Path.Structural

/-!
# Wrapping and unwrapping

Wrappers are put in and taken out in two forms, in lists of keys and in the text of a pointer. Each
has its own description: a structural path has a wrapper at every even place and the keys at the odd
ones (`getElem?_structuralPath_even`, `getElem?_structuralPath_odd`), its pointer spells a wrapper
and a key in turn (`toList_formatStructural`), and what is unwrapped is every second token
(`getElem?_valuePath`). The forms agree (`wrapping_agrees_in_lists_and_pointers`).
-/

namespace FormTree

theorem getElem?_structuralPath_even (path : List String) (i : Nat) :
    (structuralPath path)[2 * i]? = path[i]?.map fun _ => Pointer.wrapper := by
  induction path generalizing i with
  | nil => rfl
  | cons key rest ih =>
    cases i with
    | zero => rfl
    | succ i => exact ih i

theorem getElem?_structuralPath_odd (path : List String) (i : Nat) :
    (structuralPath path)[2 * i + 1]? = path[i]? := by
  induction path generalizing i with
  | nil => rfl
  | cons key rest ih =>
    cases i with
    | zero => rfl
    | succ i => exact ih i

/-- Unwrapping takes every second token, whatever stands between. -/
theorem getElem?_valuePath (tokens : List String) (i : Nat) :
    (valuePath tokens)[i]? = tokens[2 * i + 1]? := by
  fun_induction valuePath tokens generalizing i with
  | case1 token key rest ih =>
    cases i with
    | zero => rfl
    | succ i => exact ih i
  | case2 tokens hshort =>
    have hlength : tokens.length ≤ 1 := by
      rcases tokens with _ | ⟨token, _ | ⟨key, rest⟩⟩
      · exact Nat.zero_le 1
      · exact Nat.le_refl 1
      · exact (hshort token key rest rfl).elim
    rw [List.getElem?_nil, List.getElem?_eq_none (by omega)]

theorem valuePath_structuralPath_concat (path : List String) (token : String) :
    valuePath (structuralPath path ++ [token]) = path := by
  induction path with
  | nil => rfl
  | cons key rest ih => rw [structuralPath, List.cons_append, List.cons_append, valuePath, ih]

namespace Pointer

theorem toList_formatStructural (path : List String) : (formatStructural path).toList =
    path.flatMap fun key =>
      '/' :: wrapper.toList ++ '/' :: key.toList.flatMap escapeChar := by
  rw [formatStructural, toList_format]
  induction path with
  | nil => rfl
  | cons key rest ih =>
    have hwrapper : wrapper.toList.flatMap escapeChar = wrapper.toList := by decide
    rw [structuralPath, List.flatMap_cons, List.flatMap_cons, List.flatMap_cons, ih, hwrapper,
      List.append_assoc]

theorem parseStructural_eq_ok_iff_parse {pointer : String} {path : List String}
    (h : pointer = "" ∨ pointer.toList.head? = some '/') :
    parseStructural pointer = .ok path ↔ parse pointer = .ok (structuralPath path) := by
  rw [parseStructural_eq_ok_iff, absolute, if_pos h, formatStructural, parse_eq_ok_iff, eq_comm]

/-- A path is wrapped and unwrapped alike as a list and in the text of a pointer. Unwrapping undoes
wrapping, the pointer of a path is read as the wrapped path, and of the pointers that begin with `/`
or are empty those are read as a path whose tokens are the wrapped path, which then is what they
unwrap to. -/
theorem wrapping_agrees_in_lists_and_pointers :
    (∀ path : List String,
      valuePath (structuralPath path) = path ∧
      parse (formatStructural path) = .ok (structuralPath path)) ∧
    (∀ pointer : String, pointer = "" ∨ pointer.toList.head? = some '/' → ∀ path : List String,
      (parseStructural pointer = .ok path ↔
        ∃ tokens, parse pointer = .ok tokens ∧ tokens = structuralPath path) ∧
      ∀ tokens, parse pointer = .ok tokens → tokens = structuralPath path →
        path = valuePath tokens) ∧
    (∀ (path : List String) (i : Nat),
      (structuralPath path)[2 * i]? = (path[i]?.map fun _ => wrapper) ∧
      (structuralPath path)[2 * i + 1]? = path[i]?) ∧
    (∀ (tokens : List String) (i : Nat), (valuePath tokens)[i]? = tokens[2 * i + 1]?) ∧
    ∀ path : List String, (formatStructural path).toList =
      path.flatMap fun key =>
        '/' :: wrapper.toList ++ '/' :: key.toList.flatMap escapeChar := by
  refine ⟨?_, ?_, ?_, getElem?_valuePath, toList_formatStructural⟩
  · intro path
    exact ⟨valuePath_structuralPath path, parse_format (structuralPath path)⟩
  · intro pointer habsolute path
    constructor
    · rw [parseStructural_eq_ok_iff_parse habsolute, exists_eq_right]
    · intro tokens _ hwrapped
      rw [hwrapped, valuePath_structuralPath]
  · intro path i
    exact ⟨getElem?_structuralPath_even path i, getElem?_structuralPath_odd path i⟩

theorem keys_named_as_the_wrapper_are_unwrapped :
    let pointer := "/properties/properties/properties/a~1b"
    (pointer = "" ∨ pointer.toList.head? = some '/') ∧
      parse pointer = .ok ["properties", "properties", "properties", "a/b"] ∧
      parseStructural pointer = .ok ["properties", "a/b"] ∧
      ["properties", "a/b"] = valuePath ["properties", "properties", "properties", "a/b"] := by
  intro pointer
  have habsolute : pointer = "" ∨ pointer.toList.head? = some '/' := .inr (by decide)
  have hread : parse pointer = .ok ["properties", "properties", "properties", "a/b"] := by decide
  obtain ⟨-, hpointers, -⟩ := wrapping_agrees_in_lists_and_pointers
  obtain ⟨hpath, hunwrapped⟩ := hpointers pointer habsolute ["properties", "a/b"]
  exact ⟨habsolute, hread, hpath.2 ⟨_, hread, rfl⟩, hunwrapped _ hread rfl⟩

end Pointer

end FormTree
