import FormTree.Proofs.Path.Dotted
import FormTree.Proofs.Path.Tokens
import FormTree.Value.Lookup

/-!
# Canonical path texts

Several texts can be read as the same keys, since a mark adds nothing to a key and an empty stretch
is an empty key with or without it. Writing chooses one of them: the text in which every empty key
is a mark, and in which there are no other marks. So a text that is read is written again as it was
exactly if its stretches are of this form. Two texts that are read are written again as one text
exactly if they have the same keys, and then only do they lead to the same node in every value
(`rewritten_text_is_a_normal_form`).
-/

namespace FormTree

namespace Piece

variable {stretch pieces : List Piece}

/-- The stretch that is written for a key. -/
def ofKey (key : List Char) : List Piece := if key = [] then [.mark] else key.map .letter

/-- A stretch that is written for some key: a mark alone, or letters alone. -/
def IsCanonical (stretch : List Piece) : Prop :=
  stretch = [.mark] ∨ stretch ≠ [] ∧ .mark ∉ stretch

theorem separator_not_mem_ofKey (key : List Char) : .separator ∉ ofKey key := by
  rw [ofKey]
  split <;> simp

theorem separator_not_mem_of_mem_stretches (h : stretch ∈ stretches pieces) :
    .separator ∉ stretch := by
  induction pieces generalizing stretch with
  | nil =>
    obtain rfl : stretch = [] := by simpa [stretches] using h
    exact List.not_mem_nil
  | cons piece rest ih =>
    rw [stretches_cons] at h
    split at h
    · rcases List.mem_cons.1 h with rfl | hrest
      · exact List.not_mem_nil
      · exact ih hrest
    · next hpiece =>
      obtain ⟨first, others, hstretches⟩ := List.exists_cons_of_ne_nil
        (List.splitOn_ne_nil Piece.separator rest)
      rw [stretches, hstretches, List.modifyHead_cons] at h
      rw [stretches, hstretches] at ih
      rcases List.mem_cons.1 h with rfl | hothers
      · simp [ih List.mem_cons_self, Ne.symm hpiece]
      · exact ih (List.mem_cons_of_mem first hothers)

theorem map_letter_filterMap (hmark : .mark ∉ stretch) (hseparator : .separator ∉ stretch) :
    (stretch.filterMap letter?).map .letter = stretch := by
  induction stretch with
  | nil => rfl
  | cons piece rest ih =>
    cases piece with
    | letter c => simpa [letter?] using ih (by simpa using hmark) (by simpa using hseparator)
    | mark => simp at hmark
    | separator => simp at hseparator

theorem ofKey_letters_eq_iff (h : .separator ∉ stretch) :
    ofKey (stretch.filterMap letter?) = stretch ↔ IsCanonical stretch := by
  constructor
  · intro heq
    by_cases hletters : stretch.filterMap letter? = []
    · rw [ofKey, if_pos hletters] at heq
      exact .inl heq.symm
    · rw [ofKey, if_neg hletters] at heq
      refine .inr ⟨fun hnil => hletters (by rw [hnil]; rfl), ?_⟩
      rw [← heq]
      simp
  · rintro (rfl | ⟨hne, hmark⟩)
    · rfl
    · have hmap := map_letter_filterMap hmark h
      rw [ofKey, if_neg, hmap]
      intro hletters
      rw [hletters] at hmap
      exact hne hmap.symm

theorem map_ofKey_letters_eq_iff : (stretches pieces).map (ofKey ∘ List.filterMap letter?) =
    stretches pieces ↔ ∀ stretch ∈ stretches pieces, IsCanonical stretch := by
  have hstretch : ∀ stretch ∈ stretches pieces,
      ((ofKey ∘ List.filterMap letter?) stretch = stretch ↔ IsCanonical stretch) :=
    fun stretch hmem => ofKey_letters_eq_iff (separator_not_mem_of_mem_stretches hmem)
  nth_rewrite 2 [← List.map_id (stretches pieces)]
  rw [List.map_inj_left]
  exact forall₂_congr hstretch

end Piece

namespace Dotted

open Piece

variable {text : String} {keys : List String} {pieces : List Piece}

theorem spell_append (left right : List Piece) :
    spell (left ++ right) = spell left ++ spell right :=
  List.flatMap_append

theorem spell_ofKey (key : List Char) : spell (ofKey key) = encodeChars key := by
  rw [ofKey, encodeChars, spell]
  split <;> simp_all [token, List.flatMap_map]

theorem joinChars_eq_spell (keys : List (List Char)) :
    joinChars keys = spell ([.separator].intercalate (keys.map ofKey)) := by
  induction keys with
  | nil => rfl
  | cons key rest ih =>
    cases rest with
    | nil => simp [joinChars, spell_ofKey]
    | cons second others =>
      rw [joinChars_cons_cons, ih, List.map_cons, List.map_cons, List.map_cons,
        List.intercalate_cons_cons, spell_append, spell_append, spell_ofKey]
      rfl

/-- A text is written again as it was if all its stretches are canonical. -/
theorem encode_eq_iff_of_spell (h : text.toList = spell pieces) (hread : decode text = .ok keys) :
    encode keys = text ↔ text = "" ∨ ∀ stretch ∈ stretches pieces, IsCanonical stretch := by
  have hkeys := Except.ok.inj (hread.symm.trans (decode_of_spell h))
  by_cases hempty : text = ""
  · rw [if_pos hempty] at hkeys
    simp [hkeys, hempty]
  · rw [if_neg hempty] at hkeys
    have hchars : keys.map String.toList = (stretches pieces).map (List.filterMap letter?) := by
      simp [hkeys, unescaped, Function.comp_def]
    have hrejoin : [.separator].intercalate (stretches pieces) = pieces :=
      List.intercalate_splitOn Piece.separator
    have hcanonical : (stretches pieces).map (ofKey ∘ List.filterMap letter?) ≠ [] := by
      simp [stretches]
    calc encode keys = text
        ↔ joinChars (keys.map String.toList) = spell pieces := by
          rw [encode, ← h, ← String.toList_inj, String.toList_ofList]
      _ ↔ [.separator].intercalate ((stretches pieces).map (ofKey ∘ List.filterMap letter?)) =
            pieces := by
          rw [hchars, joinChars_eq_spell, List.map_map, spell_injective.eq_iff]
      _ ↔ (stretches pieces).map (ofKey ∘ List.filterMap letter?) = stretches pieces := by
          constructor
          · intro hjoin
            rw [← List.splitOn_intercalate Piece.separator ?_ hcanonical, hjoin, stretches]
            simp [separator_not_mem_ofKey]
          · intro heq
            rw [heq, hrejoin]
      _ ↔ ∀ stretch ∈ stretches pieces, IsCanonical stretch := map_ofKey_letters_eq_iff
      _ ↔ _ := (or_iff_right hempty).symm

end Dotted

namespace Value

/-- Mappings of one key each, down to a leaf. -/
def branch : KeyPath → Value
  | [] => .null
  | key :: rest => .obj [(key, branch rest)]

theorem get?_branch_eq_null_iff (p q : KeyPath) : (branch p).get? q = some .null ↔ q = p := by
  induction p generalizing q with
  | nil => cases q <;> simp [branch, get?_cons, member?, members?]
  | cons key rest ih =>
    cases q with
    | nil => simp [branch]
    | cons first others =>
      by_cases hfirst : key = first
      · simpa [branch, get?_cons, member?, members?, Members.find?, hfirst] using ih others
      · simp [branch, get?_cons, member?, members?, Members.find?, hfirst, Ne.symm hfirst]

/-- Two paths that lead to the same node in every value are the same. -/
theorem eq_of_get?_eq {p q : KeyPath} (h : ∀ root : Value, root.get? p = root.get? q) : p = q :=
  (get?_branch_eq_null_iff q p).1 ((h (branch q)).trans ((get?_branch_eq_null_iff q q).2 rfl))

end Value

namespace Dotted

variable {text : String} {keys : List String}

/-- A text that is read is written again as it was exactly if it is empty or every stretch between
its separators is a mark alone, or is not empty and without marks. In any case what is written again
is read as the same keys. So it is the same for two texts that are read exactly if they have the
same keys, or lead to the same node in every value. -/
theorem rewritten_text_is_a_normal_form (h : decode text = .ok keys) :
    (∃ pieces, text.toList = spell pieces ∧ (encode keys = text ↔
      text = "" ∨ ∀ stretch ∈ pieces.splitOn .separator,
        stretch = [.mark] ∨ stretch ≠ [] ∧ .mark ∉ stretch)) ∧
      decode (encode keys) = .ok keys ∧
      ∀ other others, decode other = .ok others →
        (encode keys = encode others ↔ keys = others) ∧
        (encode keys = encode others ↔ ∀ root : Value, root.get? keys = root.get? others) := by
  obtain ⟨pieces, hspell⟩ := exists_decode_iff.1 ⟨keys, h⟩
  refine ⟨⟨pieces, hspell, encode_eq_iff_of_spell hspell h⟩, decode_encode keys, ?_⟩
  intro other others hother
  refine ⟨encode_injective.eq_iff, fun hsame root => ?_, fun hnode => ?_⟩
  · rw [encode_injective hsame]
  · rw [Value.eq_of_get?_eq hnode]

/-- An empty key is read behind the separator with two marks, and written with one. -/
theorem doubled_mark_is_dropped :
    decode "a../0/0" = .ok ["a", ""] ∧ encode ["a", ""] = "a../0" ∧
      decode (encode ["a", ""]) = .ok ["a", ""] ∧
      ∃ pieces, "a../0/0".toList = spell pieces ∧ ¬ ∀ stretch ∈ pieces.splitOn .separator,
        stretch = [.mark] ∨ stretch ≠ [] ∧ .mark ∉ stretch := by
  have hread : decode "a../0/0" = .ok ["a", ""] := by decide
  have hwritten : encode ["a", ""] ≠ "a../0/0" := by decide
  obtain ⟨⟨pieces, hspell, hcanonical⟩, hagain, -⟩ := rewritten_text_is_a_normal_form hread
  exact ⟨hread, by decide, hagain, pieces, hspell, fun h => hwritten (hcanonical.2 (.inr h))⟩

end Dotted

end FormTree
