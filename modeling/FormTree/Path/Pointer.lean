import FormTree.Path.Error
import FormTree.Path.Piece

/-!
# Pointers

A JSON pointer is `/` and a token for every step, with `~0` for `~` and `~1` for `/`. A *value
pointer* has the keys of a value as tokens. A *structural pointer* addresses the schema node that
governs a value: each key stands behind the wrapper token `properties`. The wrapper is also what
distinguishes a structural path, as a list of keys, from the value path that it governs.
-/

namespace FormTree

namespace Pointer

/-- The token between a schema node and the schema nodes of its properties. -/
def wrapper : String := "properties"

/-- The pieces of a text whose first character stands at byte `position`. -/
def scan (position : Nat) : List Char → Except PathError (List Piece)
  | [] => .ok []
  | '~' :: '0' :: rest => (scan (position + 2) rest).map (.letter '~' :: ·)
  | '~' :: '1' :: rest => (scan (position + 2) rest).map (.letter '/' :: ·)
  | c :: rest =>
    if c = '~' then .error (.badPointerEscape position)
    else if c = '/' then (scan (position + 1) rest).map (.separator :: ·)
    else (scan (position + c.utf8Size) rest).map (.letter c :: ·)

def parseChars : List Char → Except PathError (List String)
  | [] => .ok []
  | '/' :: body => (scan 1 body).map Piece.keys
  | _ => .error .notAbsolute

def parse (pointer : String) : Except PathError (List String) := parseChars pointer.toList

def escapeChar (c : Char) : List Char :=
  if c = '~' then ['~', '0'] else if c = '/' then ['~', '1'] else [c]

def formatChars (tokens : List (List Char)) : List Char :=
  tokens.flatMap fun token => '/' :: token.flatMap escapeChar

def format (tokens : List String) : String :=
  String.ofList (formatChars (tokens.map String.toList))

end Pointer

/-- The value path with a wrapper in front of every key. -/
def structuralPath : List String → List String
  | [] => []
  | key :: rest => Pointer.wrapper :: key :: structuralPath rest

/-- Every second key, starting with the second: a structural path without its wrappers. -/
def valuePath : List String → List String
  | _ :: key :: rest => key :: valuePath rest
  | _ => []

/-- The keys alternate with wrappers, a wrapper first and a key last. -/
def IsStructural : List String → Prop
  | [] => True
  | [_] => False
  | token :: _ :: rest => token = Pointer.wrapper ∧ IsStructural rest

instance decidableIsStructural : (tokens : List String) → Decidable (IsStructural tokens)
  | [] => isTrue trivial
  | [_] => isFalse id
  | token :: _ :: rest =>
    have := decidableIsStructural rest
    inferInstanceAs (Decidable (token = Pointer.wrapper ∧ IsStructural rest))

namespace Pointer

/-- The value path that a structural pointer governs. The leading `/` may be missing, and then
positions count it in. -/
def parseStructural (pointer : String) : Except PathError (List String) :=
  let chars := pointer.toList
  let absolute := if chars.isEmpty ∨ chars.head? = some '/' then chars else '/' :: chars
  (parseChars absolute).bind fun tokens =>
    if IsStructural tokens then .ok (valuePath tokens) else .error (.notStructural pointer)

def formatStructural (path : List String) : String := format (structuralPath path)

end Pointer

@[simp] theorem valuePath_structuralPath (path : List String) :
    valuePath (structuralPath path) = path := by
  induction path with
  | nil => rfl
  | cons key rest ih => simp [structuralPath, valuePath, ih]

theorem isStructural_structuralPath (path : List String) : IsStructural (structuralPath path) := by
  induction path with
  | nil => trivial
  | cons key rest ih => exact ⟨rfl, ih⟩

theorem structuralPath_valuePath {tokens : List String} (h : IsStructural tokens) :
    structuralPath (valuePath tokens) = tokens := by
  fun_induction IsStructural tokens with
  | case1 => rfl
  | case2 => exact h.elim
  | case3 token key rest ih => simp [valuePath, structuralPath, ih h.2, h.1]

end FormTree
