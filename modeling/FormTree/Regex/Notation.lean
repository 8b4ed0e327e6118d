import FormTree.Unicode.Property

/-!
# Notation of characters and sets

How regular expressions write single characters by an escape, and sets of characters by an escape or
in brackets. Sets in brackets nest, and they are combined by `&&`, `--` and `~~`, which bind equally
and to the left.

In the verbose form, blanks and comments between the parts do not count.

Reading stops with a fault. Two faults are no mistakes of the text: a control escape, which the
caller replaces by its character, and notation that the standard grammar does not have.
-/

namespace FormTree

namespace Regex

/-- Why a text is no expression of the standard grammar. -/
inductive Fault where
  /-- A control escape; `rest` is the text from its letter on. -/
  | control (rest : List Char)
  /-- A reference back to a group, or looking around. -/
  | beyond
  | malformed

/-- The text without the blanks and comments that it begins with. -/
def skipBlanks (inComment : Bool) : List Char → List Char
  | [] => []
  | c :: rest =>
    if inComment then skipBlanks (c ≠ '\n') rest
    else if isBlank c then skipBlanks false rest
    else if c = '#' then skipBlanks true rest
    else c :: rest

def skipIf (verbose : Bool) (text : List Char) : List Char :=
  if verbose then skipBlanks false text else text

/-! ### Escapes -/

/-- Sets that a letter stands for. -/
inductive Shorthand where
  | digit | word | blank
deriving DecidableEq

/-- What an escape denotes. The bell is a character that may be escaped in brackets only. -/
inductive Escape where
  | character (c : Char)
  | bell
  | shorthand (kind : Shorthand) (negated : Bool)
  | property (property : Unicode.Property) (negated : Bool)
  | position

namespace Escape

/-- A character with a meaning of its own, which it loses after a backslash. -/
def isMeta (c : Char) : Bool := "\\.+*?()|[]\x7b\x7d^$#&-~".toList.contains c

/-- A character that a backslash does not change: ASCII, but neither letter nor digit. -/
def isPlain (c : Char) : Bool := c.toNat < 128 && !c.isAlphanum && c != '<' && c != '>'

/-- A character by the number of its code point: some digits in braces, or `count` digits. -/
def hexadecimal (count : Nat) (text : List Char) : Except Fault (Escape × List Char) :=
  let character (digits rest : List Char) : Except Fault (Escape × List Char) :=
    match Digits.hexChar? digits with
    | some c => .ok (.character c, rest)
    | none => .error .malformed
  match text with
  | '\x7b' :: text =>
    let digits := text.takeWhile (· ≠ '\x7d')
    match text.dropWhile (· ≠ '\x7d') with
    | _ :: rest => if digits.isEmpty then .error .malformed else character digits rest
    | [] => .error .malformed
  | text =>
    if text.length < count then .error .malformed
    else character (text.take count) (text.drop count)

/-- What stands before and after the first occurrence of a mark. -/
def splitAt? (mark : List Char) : List Char → Option (List Char × List Char)
  | [] => none
  | c :: rest =>
    if mark.isPrefixOf (c :: rest) then some ([], (c :: rest).drop mark.length)
    else (splitAt? mark rest).map fun (before, after) => (c :: before, after)

def propertyOf (text : List Char) : Unicode.Property :=
  let marks := [['!', '='], [':'], ['=']]
  match marks.findSome? fun mark => splitAt? mark text with
  | some (name, value) => .valued (String.ofList name) (String.ofList value)
  | none => .named (String.ofList text)

/-- A property, by one letter or by a name in braces. -/
def property? (negated : Bool) (text : List Char) : Except Fault (Escape × List Char) :=
  match text with
  | '\x7b' :: text =>
    match text.dropWhile (· ≠ '\x7d') with
    | _ :: rest => .ok (.property (propertyOf (text.takeWhile (· ≠ '\x7d'))) negated, rest)
    | [] => .error .malformed
  | '\\' :: _ => .error .malformed
  | c :: rest => .ok (.property (.named (String.singleton c)) negated, rest)
  | [] => .error .malformed

/-- The escape that a text begins with, after its backslash, and the text after it. -/
def read : List Char → Except Fault (Escape × List Char)
  | [] => .error .malformed
  | c :: rest =>
    match c with
    | 'x' => hexadecimal 2 rest
    | 'u' => hexadecimal 4 rest
    | 'U' => hexadecimal 8 rest
    | 'p' => property? false rest
    | 'P' => property? true rest
    | 'd' => .ok (.shorthand .digit false, rest)
    | 'D' => .ok (.shorthand .digit true, rest)
    | 'w' => .ok (.shorthand .word false, rest)
    | 'W' => .ok (.shorthand .word true, rest)
    | 's' => .ok (.shorthand .blank false, rest)
    | 'S' => .ok (.shorthand .blank true, rest)
    | 'a' => .ok (.bell, rest)
    | 'f' => .ok (.character '\x0c', rest)
    | 't' => .ok (.character '\t', rest)
    | 'n' => .ok (.character '\n', rest)
    | 'r' => .ok (.character '\r', rest)
    | 'v' => .ok (.character '\x0b', rest)
    | 'A' => .ok (.position, rest)
    | 'z' => .ok (.position, rest)
    | 'b' => .ok (.position, rest)
    | 'B' => .ok (.position, rest)
    | '<' => .ok (.position, rest)
    | '>' => .ok (.position, rest)
    | 'c' => .error (if (rest.head?.any Char.isAlpha) then .control rest else .malformed)
    | c =>
      if c.isDigit then .error .beyond
      else if isMeta c || isPlain c then .ok (.character c, rest)
      else .error .malformed

end Escape

/-! ### Sets -/

inductive SetOperation where
  | intersection | difference | symmetricDifference
deriving DecidableEq

inductive SetNotation where
  | nothing
  | range (first last : Char)
  | shorthand (kind : Shorthand) (negated : Bool)
  | property (property : Unicode.Property) (negated : Bool)
  /-- A class of ASCII characters by its name, as in `[:alpha:]`. -/
  | named (table : Unicode.Table) (negated : Bool)
  | union (s t : SetNotation)
  | combined (operation : SetOperation) (s t : SetNotation)
  | bracketed (negated : Bool) (s : SetNotation)

namespace SetNotation

def namedTables : List (String × String) := [
  ("alnum", "30-39 41-5A 61-7A"),
  ("alpha", "41-5A 61-7A"),
  ("ascii", "0-7F"),
  ("blank", "9 20"),
  ("cntrl", "0-1F 7F"),
  ("digit", "30-39"),
  ("graph", "21-7E"),
  ("lower", "61-7A"),
  ("print", "20-7E"),
  ("punct", "21-2F 3A-40 5B-60 7B-7E"),
  ("space", "9-D 20"),
  ("upper", "41-5A"),
  ("word", "30-39 41-5A 5F 61-7A"),
  ("xdigit", "30-39 41-46 61-66")]

def named? (text : List Char) : Option (SetNotation × List Char) :=
  match text with
  | ':' :: text =>
    let negated := text.head? = some '^'
    let text := if negated then text.drop 1 else text
    match text.dropWhile (· ≠ ':') with
    | ':' :: ']' :: rest =>
      let name := String.ofList (text.takeWhile (· ≠ ':'))
      (namedTables.find? fun entry => entry.1 = name).map fun entry =>
        (.named (.read entry.2) negated, rest)
    | _ => none
  | _ => none

/-- One end of a range, or a set by an escape. -/
def item (text : List Char) : Except Fault (Escape × List Char) :=
  match text with
  | '\\' :: rest => Escape.read rest
  | c :: rest => .ok (.character c, rest)
  | [] => .error .malformed

def ofEscape : Escape → Except Fault SetNotation
  | .character c => .ok (.range c c)
  | .bell => .ok (.range '\x07' '\x07')
  | .shorthand kind negated => .ok (.shorthand kind negated)
  | .property p negated => .ok (.property p negated)
  | .position => .error .malformed

def endOf : Escape → Except Fault Char
  | .character c => .ok c
  | .bell => .ok '\x07'
  | _ => .error .malformed

/-- A range, or a single item. A hyphen before the closing bracket or another hyphen makes no
range. -/
def rangeOrItem (verbose : Bool) (text : List Char) :
    Except Fault (SetNotation × List Char) := do
  let (first, rest) ← item text
  match skipIf verbose rest with
  | [] => .error .malformed
  | '-' :: after =>
    match skipIf verbose after with
    | [] => .error .malformed
    | ']' :: _ => return (← ofEscape first, '-' :: after)
    | '-' :: _ => return (← ofEscape first, '-' :: after)
    | after =>
      let (last, rest) ← item after
      let first ← endOf first
      let last ← endOf last
      if first.toNat ≤ last.toNat then return (.range first last, rest)
      else .error .malformed
  | rest => return (← ofEscape first, rest)

/-- The left side of an operation that waits for its right side. -/
abbrev Waiting := Option (SetOperation × SetNotation)

def finish (waiting : Waiting) (s : SetNotation) : SetNotation :=
  match waiting with
  | some (operation, left) => .combined operation left s
  | none => s

/-- Hyphens that stand first in brackets, where they are characters. -/
def leadingHyphens (verbose : Bool) : Nat → List Char → List Char
  | fuel + 1, '-' :: rest => leadingHyphens verbose fuel (skipIf verbose rest)
  | _, text => text

mutual

def bracket (verbose : Bool) : Nat → List Char → Except Fault (SetNotation × List Char)
  | 0, _ => .error .malformed
  | fuel + 1, text =>
    let text := skipIf verbose text
    let negated := text.head? = some '^'
    let text := if negated then skipIf verbose (text.drop 1) else text
    let rest := leadingHyphens verbose text.length text
    let start : SetNotation × List Char :=
      if rest.length < text.length then (.range '-' '-', rest)
      else
        match text with
        | ']' :: rest => (.range ']' ']', rest)
        | text => (.nothing, text)
    (members verbose fuel none start.1 start.2).map fun (s, rest) => (.bracketed negated s, rest)

/-- The members of a set up to the closing bracket; `s` holds those read so far. -/
def members (verbose : Bool) :
    Nat → Waiting → SetNotation → List Char → Except Fault (SetNotation × List Char)
  | 0, _, _, _ => .error .malformed
  | fuel + 1, waiting, s, text =>
    match skipIf verbose text with
    | [] => .error .malformed
    | ']' :: rest => .ok (finish waiting s, rest)
    | '&' :: '&' :: rest =>
      members verbose fuel (some (.intersection, finish waiting s)) .nothing rest
    | '-' :: '-' :: rest =>
      members verbose fuel (some (.difference, finish waiting s)) .nothing rest
    | '~' :: '~' :: rest =>
      members verbose fuel (some (.symmetricDifference, finish waiting s)) .nothing rest
    | '[' :: rest =>
      match named? rest with
      | some (t, rest) => members verbose fuel waiting (.union s t) rest
      | none =>
        match bracket verbose fuel rest with
        | .ok (t, rest) => members verbose fuel waiting (.union s t) rest
        | .error fault => .error fault
    | text =>
      match rangeOrItem verbose text with
      | .ok (t, rest) => members verbose fuel waiting (.union s t) rest
      | .error fault => .error fault

end

/-- A set in brackets after its opening bracket. Every step of the reader uses up a character, but
for the one that enters a bracket. -/
def read (verbose : Bool) (text : List Char) : Except Fault (SetNotation × List Char) :=
  bracket verbose (2 * text.length + 2) text

/-! ### Meaning -/

/-- The meaning of a shorthand among all characters. -/
def wideSet : Shorthand → CharSet
  | .digit => .table Unicode.Category.decimalDigits
  | .word => Unicode.wordCharacters
  | .blank => Unicode.BinaryProperty.ofName "White_Space"

/-- The narrow meaning of a shorthand: ASCII digits and letters, and ten blanks. -/
def narrowSet : Shorthand → CharSet
  | .digit => .ofText "30-39"
  | .word => .ofText "30-39 41-5A 5F 61-7A"
  | .blank => .ofText "9-D 20 A0 2003 2029 FEFF"

/-- The set that a notation denotes, if all its properties exist. Case is ignored before a set is
negated or combined with another one; a wide shorthand does not change with it. -/
def set? (wide ignoreCase : Bool) : SetNotation → Option CharSet
  | .nothing => some .empty
  | .range first last => some (.range first last)
  | .shorthand kind negated =>
    some (.negateIf negated
      (if wide then wideSet kind else .anyCaseIf ignoreCase (narrowSet kind)))
  | .property p negated =>
    p.set?.map fun s => .negateIf negated (.anyCaseIf ignoreCase s)
  | .named t negated => some (.negateIf negated (.anyCaseIf ignoreCase (.table t)))
  | .union s t =>
    (set? wide ignoreCase s).bind fun s => (set? wide ignoreCase t).map fun t => .union s t
  | .combined operation s t =>
    (set? wide ignoreCase s).bind fun s => (set? wide ignoreCase t).map fun t =>
      let s := CharSet.anyCaseIf ignoreCase s
      let t := CharSet.anyCaseIf ignoreCase t
      match operation with
      | .intersection => .inter s t
      | .difference => .diff s t
      | .symmetricDifference => .symmDiff s t
  | .bracketed negated s =>
    (set? wide ignoreCase s).map fun s => .negateIf negated (.anyCaseIf ignoreCase s)

end SetNotation

end Regex

end FormTree
