/-!
# Pieces of a path text

A text that names several keys is first split into pieces: letters of keys, marks that stand for
nothing, and separators. Between separators the letters make up one key, so a list of pieces with
`n` separators is `n + 1` keys.
-/

namespace FormTree

inductive Piece where
  | letter (c : Char)
  | mark
  | separator
deriving DecidableEq

namespace Piece

/-- Puts a letter in front of the first key. -/
def consLetter (c : Char) : List (List Char) → List (List Char)
  | [] => [[c]]
  | key :: rest => (c :: key) :: rest

/-- The letters between the separators. -/
def segments : List Piece → List (List Char)
  | [] => [[]]
  | .letter c :: rest => consLetter c (segments rest)
  | .mark :: rest => segments rest
  | .separator :: rest => [] :: segments rest

/-- The keys that the pieces spell. -/
def keys (pieces : List Piece) : List String := (segments pieces).map String.ofList

theorem segments_ne_nil (pieces : List Piece) : segments pieces ≠ [] := by
  induction pieces with
  | nil => simp [segments]
  | cons piece rest ih =>
    cases piece with
    | letter c => cases h : segments rest <;> simp [segments, consLetter, h]
    | mark => simpa [segments] using ih
    | separator => simp [segments]

theorem segments_letters_append (key : List Char) (rest : List Piece) :
    segments (key.map letter ++ rest) =
      (key ++ (segments rest).headD []) :: (segments rest).tail := by
  induction key with
  | nil =>
    cases h : segments rest with
    | nil => exact absurd h (segments_ne_nil rest)
    | cons first others => simp [h]
  | cons c key ih => simp [segments, ih, consLetter]

end Piece

end FormTree
