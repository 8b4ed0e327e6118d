import FormTree.Path.Dotted
import Mathlib.Data.String.Basic

/-!
# Tokens of dotted paths

A dotted path is a row of tokens: `/.`, `//`, `/0`, `..` and single characters other than `/` and
`.`. No token begins with another one, so a text is split into tokens from the left in one way only,
up to the first character that no token begins with (`exists_splits`, `Splits.unique`). Reading
takes exactly the texts that are split to their end, and what else it says is a matter of the tokens
alone: their letters between the separators are the keys, and the first character that is left over
is the fault (`text_is_read_up_to_first_fault`).
-/

namespace FormTree

namespace Piece

/-- The letter of a piece; marks and separators have none. -/
def letter? : Piece → Option Char
  | .letter c => some c
  | _ => none

/-- The pieces between the separators. -/
def stretches (pieces : List Piece) : List (List Piece) := pieces.splitOn .separator

theorem stretches_cons (piece : Piece) (rest : List Piece) : stretches (piece :: rest) =
    if piece = .separator then [] :: stretches rest
    else (stretches rest).modifyHead (piece :: ·) := by
  simp [stretches, List.splitOn_cons_eq_if_modifyHead]

/-- The letters of a stretch, which are one key. -/
def unescaped (stretch : List Piece) : String := String.ofList (stretch.filterMap letter?)

theorem segments_eq (pieces : List Piece) :
    segments pieces = (stretches pieces).map (List.filterMap letter?) := by
  induction pieces with
  | nil => rfl
  | cons piece rest ih =>
    obtain ⟨first, others, hstretches⟩ := List.exists_cons_of_ne_nil
      (List.splitOn_ne_nil Piece.separator rest)
    rw [← stretches] at hstretches
    cases piece <;>
      simp [stretches_cons, segments, consLetter, ih, hstretches, List.filterMap_cons, letter?]

theorem keys_eq (pieces : List Piece) : keys pieces = (stretches pieces).map unescaped := by
  rw [keys, segments_eq, List.map_map]
  rfl

end Piece

namespace Dotted

variable {text rest tail : List Char} {pieces : List Piece}

/-- How a piece is written. -/
def token : Piece → List Char
  | .letter c => escapeChar c
  | .mark => ['/', '0']
  | .separator => ['.', '.']

def spell (pieces : List Piece) : List Char := pieces.flatMap token

/-- The text is split from the left into the tokens of these pieces, as far as that goes: no token
stands at the beginning of the rest. -/
structure Splits (text : List Char) (pieces : List Piece) (rest : List Char) : Prop where
  text_eq : text = spell pieces ++ rest
  stuck : ∀ piece tail, rest ≠ token piece ++ tail

@[simp] theorem spell_nil : spell [] = [] := rfl

@[simp] theorem spell_cons (piece : Piece) (pieces : List Piece) :
    spell (piece :: pieces) = token piece ++ spell pieces := rfl

theorem token_ne_nil (piece : Piece) : token piece ≠ [] := by
  cases piece <;> simp [token, escapeChar]
  split <;> simp

/-- No token begins with another one. -/
theorem token_append_inj {left right : Piece} (h : token left ++ rest = token right ++ tail) :
    left = right ∧ rest = tail := by
  cases left <;> cases right <;> grind [token, escapeChar]

theorem spell_injective : Function.Injective spell := by
  intro left
  induction left with
  | nil =>
    intro right h
    cases right with
    | nil => rfl
    | cons piece right => exact absurd h.symm (by simp [token_ne_nil])
  | cons piece left ih =>
    intro right h
    cases right with
    | nil => exact absurd h (by simp [token_ne_nil])
    | cons other right =>
      obtain ⟨rfl, hrest⟩ := token_append_inj h
      rw [ih hrest]

/-! ### Splitting -/

theorem Splits.cons (piece : Piece) (h : Splits text pieces rest) :
    Splits (token piece ++ text) (piece :: pieces) rest :=
  ⟨by rw [h.text_eq, spell_cons, List.append_assoc], h.stuck⟩

theorem Splits.unique {others : List Piece} {left : List Char} (h : Splits text pieces rest)
    (hothers : Splits text others left) : others = pieces ∧ left = rest := by
  induction pieces generalizing text others with
  | nil =>
    cases others with
    | nil => exact ⟨rfl, hothers.text_eq.symm.trans h.text_eq⟩
    | cons piece others =>
      refine absurd ?_ (h.stuck piece (spell others ++ left))
      simpa using h.text_eq.symm.trans hothers.text_eq
  | cons piece pieces ih =>
    cases others with
    | nil =>
      refine absurd ?_ (hothers.stuck piece (spell pieces ++ rest))
      simpa using hothers.text_eq.symm.trans h.text_eq
    | cons other others =>
      have hsame := h.text_eq.symm.trans hothers.text_eq
      rw [spell_cons, spell_cons, List.append_assoc, List.append_assoc] at hsame
      obtain ⟨rfl, hbelow⟩ := token_append_inj hsame
      obtain ⟨rfl, rfl⟩ := ih ⟨rfl, h.stuck⟩ ⟨hbelow, hothers.stuck⟩
      exact ⟨rfl, rfl⟩

theorem exists_splits (text : List Char) : ∃ pieces rest, Splits text pieces rest := by
  by_cases htoken : ∃ piece tail, text = token piece ++ tail
  · obtain ⟨piece, tail, htext⟩ := htoken
    have hshorter : tail.length < text.length := by
      have hpos := List.length_pos_of_ne_nil (token_ne_nil piece)
      simp [htext, hpos]
    obtain ⟨pieces, rest, hsplits⟩ := exists_splits tail
    exact ⟨_, _, htext ▸ hsplits.cons piece⟩
  · exact ⟨[], text, rfl, fun piece tail htext => htoken ⟨piece, tail, htext⟩⟩
termination_by text.length

theorem splits_nil_iff : Splits text pieces [] ↔ text = spell pieces :=
  ⟨fun h => by simpa using h.text_eq,
    fun h => ⟨by simpa using h, fun piece tail => by simp [token_ne_nil]⟩⟩

/-! ### Reading token by token -/

theorem scan_token (piece : Piece) (position : Nat) (rest : List Char) :
    scan position (token piece ++ rest) =
      (scan (position + String.utf8Len (token piece)) rest).map (piece :: ·) := by
  cases piece with
  | mark => exact scan_mark position rest
  | separator => exact scan_separator position rest
  | letter c =>
    by_cases hspecial : c = '.' ∨ c = '/'
    · rcases hspecial with rfl | rfl <;> simp [token, escapeChar, scan] <;> rfl
    · have hc : escapeChar c = [c] := if_neg hspecial
      rw [not_or] at hspecial
      rw [token, hc]
      simpa using scan_letter position rest hspecial.2 hspecial.1

theorem scan_spell (pieces : List Piece) (position : Nat) (rest : List Char) :
    scan position (spell pieces ++ rest) =
      (scan (position + String.utf8Len (spell pieces)) rest).map (pieces ++ ·) := by
  induction pieces generalizing position with
  | nil => cases h : scan position rest <;> simp [h, Except.map]
  | cons piece pieces ih =>
    rw [spell_cons, List.append_assoc, scan_token, ih, String.utf8Len_append, Nat.add_assoc]
    generalize scan (position + _) rest = outcome
    cases outcome <;> rfl

theorem scan_of_stuck (h : ∀ piece tail, rest ≠ token piece ++ tail) (position : Nat) :
    rest = [] ∨ ∃ c behind, rest = c :: behind ∧
      (c = '/' ∧ scan position rest = .error (.unbalancedEscape position) ∨
        c = '.' ∧ scan position rest = .error (.straySeparator position)) := by
  rw [scan.eq_def]
  split
  · exact .inl rfl
  · exact absurd rfl (h (.letter '.') _)
  · exact absurd rfl (h (.letter '/') _)
  · exact absurd rfl (h .mark _)
  · exact absurd rfl (h .separator _)
  · next c behind _ _ _ _ =>
    refine .inr ⟨c, behind, rfl, ?_⟩
    by_cases hslash : c = '/'
    · exact .inl ⟨hslash, by rw [if_pos hslash]⟩
    · by_cases hdot : c = '.'
      · exact .inr ⟨hdot, by rw [if_neg hslash, if_pos hdot]⟩
      · refine absurd ?_ (h (.letter c) behind)
        simp [token, escapeChar, hslash, hdot]

/-! ### Reading a text -/

theorem decode_of_spell {text : String} (h : text.toList = spell pieces) : decode text =
    .ok (if text = "" then [] else (Piece.stretches pieces).map Piece.unescaped) := by
  by_cases hempty : text = ""
  · rw [hempty, decode_empty, if_pos rfl]
  · have hchars : text.toList.isEmpty = false := by simpa using hempty
    have hscan := scan_spell pieces 0 []
    rw [List.append_nil, ← h] at hscan
    rw [decode, decodeChars, hchars, if_neg Bool.false_ne_true, hscan, if_neg hempty,
      ← Piece.keys_eq]
    simp [scan, Except.map]

theorem decode_of_stuck {text : String} (h : Splits text.toList pieces rest) (hrest : rest ≠ []) :
    ∃ c behind, rest = c :: behind ∧
      (c = '/' ∧ decode text = .error (.unbalancedEscape (String.utf8Len (spell pieces))) ∨
        c = '.' ∧ decode text = .error (.straySeparator (String.utf8Len (spell pieces)))) := by
  have hchars : text.toList.isEmpty = false := by simp [h.text_eq, hrest]
  have hscan := scan_spell pieces 0 rest
  rw [← h.text_eq, Nat.zero_add] at hscan
  have hdecode : decode text = (scan 0 text.toList).map Piece.keys := by
    rw [decode, decodeChars, hchars, if_neg Bool.false_ne_true]
  rcases scan_of_stuck h.stuck (String.utf8Len (spell pieces)) with hnil | ⟨c, behind, hc, hfault⟩
  · exact absurd hnil hrest
  · refine ⟨c, behind, hc, ?_⟩
    rcases hfault with ⟨hslash, hfault⟩ | ⟨hdot, hfault⟩
    · exact .inl ⟨hslash, by rw [hdecode, hscan, hfault]; rfl⟩
    · exact .inr ⟨hdot, by rw [hdecode, hscan, hfault]; rfl⟩

theorem exists_decode_iff {text : String} :
    (∃ keys, decode text = .ok keys) ↔ ∃ pieces, text.toList = spell pieces := by
  constructor
  · rintro ⟨keys, hkeys⟩
    obtain ⟨pieces, rest, hsplits⟩ := exists_splits text.toList
    by_cases hrest : rest = []
    · exact ⟨pieces, splits_nil_iff.1 (hrest ▸ hsplits)⟩
    · obtain ⟨c, behind, -, ⟨-, hfault⟩ | ⟨-, hfault⟩⟩ := decode_of_stuck hsplits hrest
      · nomatch hkeys.symm.trans hfault
      · nomatch hkeys.symm.trans hfault
  · rintro ⟨pieces, hpieces⟩
    exact ⟨_, decode_of_spell hpieces⟩

/-- Every text is split into tokens in one way, as far as that goes. If it goes to the end, and only
then, the text is read, and its keys are the letters between the separators; the empty text has no
keys. Otherwise the first character that begins no token is an escape or a point; the error names
it with the byte that it stands at, and the text before it is read. -/
theorem text_is_read_up_to_first_fault (text : String) :
    ∃ pieces rest, Splits text.toList pieces rest ∧
      (∀ others left, Splits text.toList others left → others = pieces ∧ left = rest) ∧
      ((∃ keys, decode text = .ok keys) ↔ ∃ others, text.toList = spell others) ∧
      (rest = [] → decode text =
        .ok (if text = "" then [] else (Piece.stretches pieces).map Piece.unescaped)) ∧
      ∀ c behind, rest = c :: behind → ∃ before after : String, text = before ++ after ∧
        before.toList = spell pieces ∧ after.toList = c :: behind ∧
        (c = '/' ∧ decode text = .error (.unbalancedEscape before.utf8ByteSize) ∨
          c = '.' ∧ decode text = .error (.straySeparator before.utf8ByteSize)) ∧
        before.utf8ByteSize < text.utf8ByteSize ∧
        (String.Pos.Raw.mk before.utf8ByteSize).IsValid text ∧
        ∃ keys, decode before = .ok keys := by
  obtain ⟨pieces, rest, hsplits⟩ := exists_splits text.toList
  refine ⟨pieces, rest, hsplits, fun others left => hsplits.unique, exists_decode_iff, ?_, ?_⟩
  · rintro rfl
    exact decode_of_spell (splits_nil_iff.1 hsplits)
  · rintro c behind rfl
    have htext : text = String.ofList (spell pieces) ++ String.ofList (c :: behind) := by
      rw [← String.ofList_append, ← hsplits.text_eq, String.ofList_toList]
    have hbefore : (String.ofList (spell pieces)).toList = spell pieces := String.toList_ofList
    refine ⟨_, _, htext, hbefore, String.toList_ofList, ?_, ?_, ?_, _, decode_of_spell hbefore⟩
    · obtain ⟨d, _, hd, hfault⟩ := decode_of_stuck hsplits (List.cons_ne_nil c behind)
      rw [String.utf8ByteSize_ofList, (List.cons.inj hd).1]
      exact hfault
    · have hpos := c.utf8Size_pos
      rw [htext, String.utf8ByteSize_append, String.utf8ByteSize_ofList (c :: behind),
        String.utf8Len_cons]
      omega
    · exact String.Pos.Raw.isValid_iff_exists_append.2 ⟨_, _, htext, rfl⟩

example : decode "é/0....b" = .ok ["é", "", "b"] ∧
    decode "é.....b" = .error (.straySeparator 6) := by decide

end Dotted

end FormTree
