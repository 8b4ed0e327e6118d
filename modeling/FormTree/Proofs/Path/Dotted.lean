import FormTree.Path.Dotted

/-!
# Dotted paths read back

Every list of keys is read back from its text. The escapes are undone letter by letter, whatever
follows, and a separator stands between two keys and nowhere else, so a written text splits into as
many pieces as its keys have letters, marks and separators.
-/

namespace FormTree

namespace Dotted

variable {rest : List Char} {pieces : List Piece}

theorem encodeChars_nil : encodeChars [] = ['/', '0'] := rfl

theorem encodeChars_of_ne_nil {key : List Char} (h : key ≠ []) :
    encodeChars key = key.flatMap escapeChar := by
  rw [encodeChars, if_neg (by simpa using h)]

theorem encodeChars_ne_nil (key : List Char) : encodeChars key ≠ [] := by
  cases key with
  | nil => simp [encodeChars_nil]
  | cons c key =>
    rw [encodeChars_of_ne_nil (List.cons_ne_nil c key), List.flatMap_cons, escapeChar]
    split <;> simp

theorem joinChars_cons_cons (key second : List Char) (others : List (List Char)) :
    joinChars (key :: second :: others) =
      encodeChars key ++ ['.', '.'] ++ joinChars (second :: others) := rfl

theorem scan_escapeChar (h : ∀ position, scan position rest = .ok pieces) (c : Char)
    (position : Nat) : scan position (escapeChar c ++ rest) = .ok (.letter c :: pieces) := by
  by_cases hspecial : c = '.' ∨ c = '/'
  · rw [escapeChar, if_pos hspecial]
    rcases hspecial with rfl | rfl <;> simp [scan, h, Except.map]
  · rw [escapeChar, if_neg hspecial, List.singleton_append]
    rw [scan_letter position rest (fun hs => hspecial (.inr hs)) fun hd => hspecial (.inl hd)]
    rw [h, Except.map]

theorem scan_escape (h : ∀ position, scan position rest = .ok pieces) (key : List Char)
    (position : Nat) :
    scan position (key.flatMap escapeChar ++ rest) = .ok (key.map .letter ++ pieces) := by
  induction key generalizing position with
  | nil => exact h position
  | cons c key ih =>
    rw [List.flatMap_cons, List.append_assoc]
    exact scan_escapeChar ih c position

/-- A written key in front of a text puts its letters in front of the first key of the text. -/
theorem scan_encodeChars (h : ∀ position, scan position rest = .ok pieces) (key : List Char) :
    ∃ more, (∀ position, scan position (encodeChars key ++ rest) = .ok more) ∧
      Piece.segments more =
        (key ++ (Piece.segments pieces).headD []) :: (Piece.segments pieces).tail := by
  cases key with
  | nil =>
    refine ⟨.mark :: pieces, fun position => ?_, ?_⟩
    · rw [encodeChars_nil, List.cons_append, List.cons_append, List.nil_append, scan_mark, h,
        Except.map]
    · exact Piece.segments_letters_append [] pieces
  | cons c key =>
    refine ⟨(c :: key).map .letter ++ pieces, fun position => ?_, ?_⟩
    · rw [encodeChars_of_ne_nil (List.cons_ne_nil c key), scan_escape h]
    · exact Piece.segments_letters_append (c :: key) pieces

theorem scan_joinChars {keys : List (List Char)} (hkeys : keys ≠ []) :
    ∃ pieces, (∀ position, scan position (joinChars keys) = .ok pieces) ∧
      Piece.segments pieces = keys := by
  induction keys with
  | nil => exact absurd rfl hkeys
  | cons key others ih =>
    cases others with
    | nil =>
      obtain ⟨pieces, hscan, hsegments⟩ := @scan_encodeChars [] [] (fun _ => rfl) key
      refine ⟨pieces, fun position => ?_, ?_⟩
      · rw [joinChars, ← List.append_nil (encodeChars key), hscan]
      · rw [hsegments]
        simp [Piece.segments]
    | cons second others =>
      obtain ⟨below, hbelow, hothers⟩ := ih (List.cons_ne_nil second others)
      have hseparator : ∀ position, scan position ('.' :: '.' :: joinChars (second :: others)) =
          .ok (.separator :: below) := by
        intro position
        rw [scan_separator, hbelow, Except.map]
      obtain ⟨pieces, hscan, hsegments⟩ := scan_encodeChars hseparator key
      refine ⟨pieces, fun position => ?_, ?_⟩
      · rw [joinChars_cons_cons, List.append_assoc]
        exact hscan position
      · rw [hsegments, Piece.segments, hothers, List.headD_cons, List.append_nil, List.tail_cons]

theorem joinChars_ne_nil {keys : List (List Char)} (hkeys : keys ≠ []) : joinChars keys ≠ [] := by
  cases keys with
  | nil => exact absurd rfl hkeys
  | cons key others =>
    cases others with
    | nil => exact encodeChars_ne_nil key
    | cons second others => simp [joinChars_cons_cons]

theorem decode_encode (keys : List String) : decode (encode keys) = .ok keys := by
  by_cases hkeys : keys = []
  · rw [hkeys, encode_nil, decode_empty]
  · have hchars : keys.map String.toList ≠ [] := by simpa using hkeys
    obtain ⟨pieces, hscan, hsegments⟩ := scan_joinChars hchars
    rw [decode, encode, String.toList_ofList, decodeChars,
      if_neg (by simpa using joinChars_ne_nil hchars), hscan, Except.map, Piece.keys, hsegments,
      List.map_map]
    simp [Function.comp_def]

theorem encode_injective : Function.Injective encode := by
  intro first second h
  have hread := decode_encode first
  rw [h, decode_encode, Except.ok.injEq] at hread
  exact hread.symm

/-- Every list of keys, whatever characters they have, is read back from its text; so no two lists
have one text. -/
theorem every_key_list_is_read_back :
    (∀ keys : List String, decode (encode keys) = .ok keys) ∧ Function.Injective encode :=
  ⟨decode_encode, encode_injective⟩

end Dotted

end FormTree
