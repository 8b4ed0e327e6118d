import FormTree.Path.Error
import FormTree.Path.Piece

/-!
# Dotted paths

A list of keys as one text, with `..` between keys. Inside a key a point is written `/.` and the
escape itself `//`, so a bare point is always half of a separator. The empty key is written `/0`;
without the mark a single empty key would be written like no key at all.

Reading splits the text from the left into pieces and fails at the first character that starts none.
It also takes an empty stretch between separators for an empty key, which writing never produces.
-/

namespace FormTree

namespace Dotted

def escapeChar (c : Char) : List Char := if c = '.' ∨ c = '/' then ['/', c] else [c]

/-- One key, ready to stand between separators. -/
def encodeChars (key : List Char) : List Char :=
  if key.isEmpty then ['/', '0'] else key.flatMap escapeChar

def encodeKey (key : String) : String := String.ofList (encodeChars key.toList)

/-- The text of several keys, given by their characters. -/
def joinChars : List (List Char) → List Char
  | [] => []
  | [key] => encodeChars key
  | key :: rest => encodeChars key ++ ['.', '.'] ++ joinChars rest

/-- The text of a list of keys; no keys are the empty text. -/
def encode (keys : List String) : String := String.ofList (joinChars (keys.map String.toList))

/-- The pieces of a text whose first character stands at byte `position`. -/
def scan (position : Nat) : List Char → Except PathError (List Piece)
  | [] => .ok []
  | '/' :: '.' :: rest => (scan (position + 2) rest).map (.letter '.' :: ·)
  | '/' :: '/' :: rest => (scan (position + 2) rest).map (.letter '/' :: ·)
  | '/' :: '0' :: rest => (scan (position + 2) rest).map (.mark :: ·)
  | '.' :: '.' :: rest => (scan (position + 2) rest).map (.separator :: ·)
  | c :: rest =>
    if c = '/' then .error (.unbalancedEscape position)
    else if c = '.' then .error (.straySeparator position)
    else (scan (position + c.utf8Size) rest).map (.letter c :: ·)

def decodeChars (text : List Char) : Except PathError (List String) :=
  if text.isEmpty then .ok [] else (scan 0 text).map Piece.keys

def decode (text : String) : Except PathError (List String) := decodeChars text.toList

@[simp] theorem encode_nil : encode [] = "" := rfl

@[simp] theorem decode_empty : decode "" = .ok [] := rfl

theorem scan_separator (position : Nat) (rest : List Char) :
    scan position ('.' :: '.' :: rest) = (scan (position + 2) rest).map (.separator :: ·) := by
  simp [scan]

theorem scan_mark (position : Nat) (rest : List Char) :
    scan position ('/' :: '0' :: rest) = (scan (position + 2) rest).map (.mark :: ·) := by
  simp [scan]

theorem scan_letter {c : Char} (position : Nat) (rest : List Char) (hs : c ≠ '/') (hd : c ≠ '.') :
    scan position (c :: rest) = (scan (position + c.utf8Size) rest).map (.letter c :: ·) := by
  rw [scan.eq_def]
  split <;> simp_all

end Dotted

end FormTree
