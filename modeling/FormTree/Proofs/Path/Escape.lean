import FormTree.Proofs.Path.Pointer
import FormTree.Proofs.Program
import Mathlib.Data.String.Basic

/-!
# Which texts are pointers

A text is read as a pointer only if it is the one that is written for the tokens read from it, so a
list of tokens has one pointer and no other spelling. What else a text can be shows in its
characters: it is not empty and has no `/` in front, or there is a `~` in it that begins no escape.
In the second case the fault is the first such `~`, and the error names the byte that it stands at
(`pointers_are_the_written_texts`).
-/

namespace FormTree

namespace Pointer

variable {text before : List Char} {c : Char} {position : Nat} {pieces : List Piece}
  {fault : PathError}

/-! ### Texts that are read -/

theorem toList_format (tokens : List String) : (format tokens).toList =
    tokens.flatMap fun token => '/' :: token.toList.flatMap escapeChar := by
  rw [format, String.toList_ofList, formatChars, List.flatMap_map]

theorem formatChars_consLetter (c : Char) {segments : List (List Char)}
    (h : formatChars segments = '/' :: text) :
    formatChars (Piece.consLetter c segments) = '/' :: (escapeChar c ++ text) := by
  cases segments with
  | nil => simp [formatChars] at h
  | cons key rest =>
    simp only [formatChars, List.flatMap_cons, List.cons_append, List.cons.injEq, true_and] at h
    simp only [formatChars, Piece.consLetter, List.flatMap_cons, List.cons_append,
      List.append_assoc, h]

theorem formatChars_of_scan (h : scan position text = .ok pieces) :
    formatChars (Piece.segments pieces) = '/' :: text := by
  fun_induction scan position text generalizing pieces with
  | case1 position =>
    obtain rfl := Except.ok.inj h
    rfl
  | case2 position rest ih =>
    obtain ⟨below, hbelow, rfl⟩ := except_map_eq_ok.1 h
    exact formatChars_consLetter '~' (ih hbelow)
  | case3 position rest ih =>
    obtain ⟨below, hbelow, rfl⟩ := except_map_eq_ok.1 h
    exact formatChars_consLetter '/' (ih hbelow)
  | case4 => cases h
  | case5 position rest _ _ _ ih =>
    obtain ⟨below, hbelow, rfl⟩ := except_map_eq_ok.1 h
    exact congrArg ('/' :: ·) (ih hbelow)
  | case6 position c rest _ _ htilde hslash ih =>
    obtain ⟨below, hbelow, rfl⟩ := except_map_eq_ok.1 h
    have hwritten := formatChars_consLetter c (ih hbelow)
    rwa [escapeChar, if_neg htilde, if_neg hslash] at hwritten

theorem eq_format_of_parse {pointer : String} {keys : List String}
    (h : parse pointer = .ok keys) : pointer = format keys := by
  rw [parse, parseChars.eq_def] at h
  rw [← String.toList_inj, format, String.toList_ofList]
  split at h
  · next hempty =>
    obtain rfl := Except.ok.inj h
    exact hempty
  · next body hbody =>
    obtain ⟨pieces, hpieces, rfl⟩ := except_map_eq_ok.1 h
    rw [hbody, Piece.keys, List.map_map]
    simpa [Function.comp_def] using (formatChars_of_scan hpieces).symm
  · cases h

/-- Exactly the written pointers are read. -/
theorem parse_eq_ok_iff {pointer : String} {keys : List String} :
    parse pointer = .ok keys ↔ pointer = format keys := by
  constructor
  · exact eq_format_of_parse
  · intro hwritten
    rw [hwritten]
    exact parse_format keys

/-! ### The first fault -/

theorem head?_ne_some (h : ∀ tail, text ≠ c :: tail) : text.head? ≠ some c := by
  intro hhead
  obtain ⟨tail, htail⟩ := List.head?_eq_some_iff.1 hhead
  exact h tail htail

/-- Behind `before` in the text stands a `~` that begins no escape. -/
def Loose (text before : List Char) : Prop :=
  ∃ after, text = before ++ '~' :: after ∧ after.head? ≠ some '0' ∧ after.head? ≠ some '1'

/-- The first `~` of the text that begins no escape stands behind `before`. -/
structure FirstLoose (text before : List Char) : Prop where
  loose : Loose text before
  least : ∀ other, Loose text other → before.length ≤ other.length

theorem Loose.cons (h : Loose text before) (c : Char) : Loose (c :: text) (c :: before) := by
  obtain ⟨after, htext, hafter⟩ := h
  exact ⟨after, by rw [htext, List.cons_append], hafter⟩

theorem FirstLoose.cons (h : FirstLoose text before)
    (hc : c ≠ '~' ∨ text.head? = some '0' ∨ text.head? = some '1') :
    FirstLoose (c :: text) (c :: before) := by
  refine ⟨h.loose.cons c, ?_⟩
  intro other hother
  obtain ⟨after, htext, hzero, hone⟩ := hother
  cases other with
  | nil =>
    obtain ⟨rfl, rfl⟩ := List.cons.inj htext
    exact absurd hc (by simp [hzero, hone])
  | cons d below =>
    obtain ⟨rfl, hbelow⟩ := List.cons.inj htext
    exact Nat.succ_le_succ (h.least below ⟨after, hbelow, hzero, hone⟩)

theorem FirstLoose.escape (h : FirstLoose text before) (hc : c = '0' ∨ c = '1') :
    FirstLoose ('~' :: c :: text) ('~' :: c :: before) := by
  have hletter : c ≠ '~' := by
    rcases hc with rfl | rfl <;> decide
  apply (h.cons (.inl hletter)).cons
  simpa using hc

theorem firstLoose_nil (hzero : text.head? ≠ some '0') (hone : text.head? ≠ some '1') :
    FirstLoose ('~' :: text) [] :=
  ⟨⟨text, rfl, hzero, hone⟩, fun _ _ => Nat.zero_le _⟩

/-- Reading fails at the first fault, and counts the bytes up to it. -/
theorem exists_firstLoose_of_scan (h : scan position text = .error fault) :
    ∃ before, FirstLoose text before ∧
      fault = .badPointerEscape (position + String.utf8Len before) := by
  fun_induction scan position text with
  | case1 => cases h
  | case2 position rest ih =>
    obtain ⟨before, hfirst, rfl⟩ := ih (except_map_eq_error.1 h)
    refine ⟨'~' :: '0' :: before, hfirst.escape (.inl rfl), ?_⟩
    have hsize : String.utf8Len ('~' :: '0' :: before) = String.utf8Len before + 2 := rfl
    rw [hsize, Nat.add_assoc, Nat.add_comm 2]
  | case3 position rest ih =>
    obtain ⟨before, hfirst, rfl⟩ := ih (except_map_eq_error.1 h)
    refine ⟨'~' :: '1' :: before, hfirst.escape (.inr rfl), ?_⟩
    have hsize : String.utf8Len ('~' :: '1' :: before) = String.utf8Len before + 2 := rfl
    rw [hsize, Nat.add_assoc, Nat.add_comm 2]
  | case4 position rest hzero hone =>
    obtain rfl := Except.error.inj h
    have hnot0 : rest.head? ≠ some '0' := head?_ne_some fun tail => hzero tail rfl
    have hnot1 : rest.head? ≠ some '1' := head?_ne_some fun tail => hone tail rfl
    exact ⟨[], firstLoose_nil hnot0 hnot1, rfl⟩
  | case5 position rest _ _ _ ih =>
    obtain ⟨before, hfirst, rfl⟩ := ih (except_map_eq_error.1 h)
    refine ⟨'/' :: before, hfirst.cons (.inl (by decide)), ?_⟩
    have hsize : String.utf8Len ('/' :: before) = String.utf8Len before + 1 := rfl
    rw [hsize, Nat.add_assoc, Nat.add_comm 1]
  | case6 position c rest _ _ htilde hslash ih =>
    obtain ⟨before, hfirst, rfl⟩ := ih (except_map_eq_error.1 h)
    refine ⟨c :: before, hfirst.cons (.inl htilde), ?_⟩
    rw [String.utf8Len_cons, Nat.add_assoc, Nat.add_comm c.utf8Size]

theorem parse_cases (pointer : String) : (∃ keys, parse pointer = .ok keys) ∨
    (pointer ≠ "" ∧ pointer.toList.head? ≠ some '/') ∧ parse pointer = .error .notAbsolute ∨
    pointer.toList.head? = some '/' ∧ ∃ before, FirstLoose pointer.toList before ∧
      parse pointer = .error (.badPointerEscape (String.utf8Len before)) := by
  cases hread : parse pointer with
  | ok keys => exact .inl ⟨keys, rfl⟩
  | error fault =>
    refine .inr ?_
    rw [parse, parseChars.eq_def] at hread
    split at hread
    · cases hread
    · next body hbody =>
      obtain ⟨before, hfirst, rfl⟩ := exists_firstLoose_of_scan (except_map_eq_error.1 hread)
      have hslash : FirstLoose ('/' :: body) ('/' :: before) := hfirst.cons (.inl (by decide))
      refine .inr ⟨by rw [hbody]; rfl, '/' :: before, hbody ▸ hslash, ?_⟩
      rw [Nat.add_comm]
      rfl
    · next hempty hslash =>
      obtain rfl := Except.error.inj hread
      refine .inl ⟨⟨?_, head?_ne_some hslash⟩, rfl⟩
      intro heq
      exact hempty (by rw [heq]; rfl)

/-- A text is read as the keys that it is written for, with a `/` in front of each key and the
escapes of its `~` and `/`. Of all other texts, those that are not empty and do not begin with `/`
are not absolute; in the rest there is a `~` that begins no escape, and the error names the byte
that the first such `~` stands at. -/
theorem pointers_are_the_written_texts (pointer : String) :
    (∀ keys : List String, parse pointer = .ok keys ↔
      pointer.toList = keys.flatMap fun key => '/' :: key.toList.flatMap escapeChar) ∧
    ((¬ ∃ keys : List String,
        pointer.toList = keys.flatMap fun key => '/' :: key.toList.flatMap escapeChar) →
      if pointer ≠ "" ∧ pointer.toList.head? ≠ some '/' then parse pointer = .error .notAbsolute
      else ∃ before : String, FirstLoose pointer.toList before.toList ∧
        parse pointer = .error (.badPointerEscape before.utf8ByteSize)) := by
  have hwritten : ∀ keys : List String, parse pointer = .ok keys ↔
      pointer.toList = keys.flatMap fun key => '/' :: key.toList.flatMap escapeChar := by
    intro keys
    rw [parse_eq_ok_iff, ← String.toList_inj, toList_format]
  refine ⟨hwritten, fun hother => ?_⟩
  rcases parse_cases pointer with ⟨keys, hkeys⟩ | ⟨hrelative, hfault⟩ |
    ⟨hslash, before, hfirst, hfault⟩
  · exact absurd ⟨keys, (hwritten keys).1 hkeys⟩ hother
  · rw [if_pos hrelative]
    exact hfault
  · rw [if_neg fun hrelative => hrelative.2 hslash]
    refine ⟨String.ofList before, ?_, ?_⟩
    · rw [String.toList_ofList]
      exact hfirst
    · rw [String.utf8ByteSize_ofList]
      exact hfault

example : parse "/é~1/~0/" = .ok ["é/", "~", ""] ∧
    parse "/é~0~~2" = .error (.badPointerEscape 5) := by decide

end Pointer

end FormTree
