import FormTree.Path.Pointer

/-!
# Pointers read back

A written pointer is read back as the tokens it was written for, whatever characters they have. The
separator stands in front of a token and not between two, so the pieces of a pointer spell one more
key than it has tokens, an empty one at the front. A structural pointer is the pointer of a
structural path, and reading it drops the wrappers again.
-/

namespace FormTree

namespace Pointer

variable {rest : List Char} {pieces : List Piece}

theorem scan_separator (position : Nat) (rest : List Char) :
    scan position ('/' :: rest) = (scan (position + 1) rest).map (.separator :: ·) := by
  simp [scan]

theorem scan_letter {c : Char} (position : Nat) (rest : List Char) (ht : c ≠ '~') (hs : c ≠ '/') :
    scan position (c :: rest) = (scan (position + c.utf8Size) rest).map (.letter c :: ·) := by
  rw [scan.eq_def]
  split <;> simp_all

theorem scan_escapeChar (h : ∀ position, scan position rest = .ok pieces) (c : Char)
    (position : Nat) : scan position (escapeChar c ++ rest) = .ok (.letter c :: pieces) := by
  by_cases htilde : c = '~'
  · subst htilde
    simp [escapeChar, scan, h, Except.map]
  · by_cases hslash : c = '/'
    · subst hslash
      simp [escapeChar, scan, h, Except.map]
    · rw [escapeChar, if_neg htilde, if_neg hslash, List.singleton_append,
        scan_letter position rest htilde hslash, h, Except.map]

theorem scan_escape (h : ∀ position, scan position rest = .ok pieces) (token : List Char)
    (position : Nat) :
    scan position (token.flatMap escapeChar ++ rest) = .ok (token.map .letter ++ pieces) := by
  induction token generalizing position with
  | nil => exact h position
  | cons c token ih =>
    rw [List.flatMap_cons, List.append_assoc]
    exact scan_escapeChar ih c position

/-- The pieces of a token and of the pointer behind it spell the token first. -/
theorem segments_token {tokens : List (List Char)} (token : List Char)
    (h : Piece.segments pieces = [] :: tokens) :
    Piece.segments (token.map .letter ++ pieces) = token :: tokens := by
  rw [Piece.segments_letters_append, h, List.headD_cons, List.append_nil, List.tail_cons]

theorem scan_formatChars (tokens : List (List Char)) :
    ∃ pieces, (∀ position, scan position (formatChars tokens) = .ok pieces) ∧
      Piece.segments pieces = [] :: tokens := by
  induction tokens with
  | nil => exact ⟨[], fun _ => rfl, rfl⟩
  | cons token others ih =>
    obtain ⟨below, hbelow, hothers⟩ := ih
    refine ⟨.separator :: (token.map .letter ++ below), fun position => ?_, ?_⟩
    · rw [formatChars, List.flatMap_cons, List.cons_append, scan_separator]
      exact congrArg (Except.map _) (scan_escape hbelow token _)
    · rw [Piece.segments, segments_token token hothers]

theorem parseChars_formatChars (tokens : List (List Char)) :
    parseChars (formatChars tokens) = .ok (tokens.map String.ofList) := by
  cases tokens with
  | nil => rfl
  | cons token others =>
    obtain ⟨below, hbelow, hothers⟩ := scan_formatChars others
    have hscan := scan_escape hbelow token 1
    rw [formatChars, List.flatMap_cons, List.cons_append, parseChars]
    rw [formatChars] at hscan
    rw [hscan, Except.map, Piece.keys, segments_token token hothers]

theorem parse_format (tokens : List String) : parse (format tokens) = .ok tokens := by
  rw [parse, format, String.toList_ofList, parseChars_formatChars, List.map_map]
  simp [Function.comp_def]

theorem absolute_format (tokens : List String) :
    (format tokens).toList.isEmpty = true ∨ (format tokens).toList.head? = some '/' := by
  rw [format, String.toList_ofList]
  cases tokens with
  | nil => exact .inl rfl
  | cons token others => exact .inr rfl

theorem parseStructural_formatStructural (path : List String) :
    parseStructural (formatStructural path) = .ok path := by
  have hread : parseChars (format (structuralPath path)).toList = .ok (structuralPath path) :=
    parse_format (structuralPath path)
  rw [formatStructural, parseStructural, if_pos (absolute_format _), hread, Except.bind,
    if_pos (isStructural_structuralPath path), valuePath_structuralPath]

end Pointer

theorem structuralPath_concat (path : List String) (key : String) :
    structuralPath (path ++ [key]) = structuralPath path ++ [Pointer.wrapper, key] := by
  induction path with
  | nil => rfl
  | cons first rest ih => simp [structuralPath, ih]

end FormTree
