import FormTree.Regex.Notation

/-!
# The standard grammar

The grammar of regular expressions without looking around and references back. `Standard.check` says
whether a text follows it, or which fault it meets first. Nothing is built: the extended grammar
reads every text again that this one does not refuse as malformed.

A bell is the one escape that is malformed although the grammar has it, unless it stands in
brackets; it does not hide a fault that comes after it.
-/

namespace FormTree

namespace Regex

namespace Standard

/-- What matters of the text read so far: whether blanks count, in the open group and in those
around it, whether there is something that can be repeated, the names of groups, and whether a bell
was met. -/
structure Progress where
  verbose : Bool
  outer : List Bool
  repeatable : Bool
  names : List (List Char)
  bell : Bool

structure OptionLetters where
  letters : List Char
  /-- The verbose form, if it is switched on or off. -/
  verbose : Option Bool
  /-- A colon follows, so that the group has content. -/
  opens : Bool

/-- Reads options. None may occur twice, and neither may the hyphen, which comes before some
letter. -/
def options? (seen : List Char) (off : Bool) (verbose : Option Bool) :
    List Char → Option (OptionLetters × List Char)
  | [] => none
  | c :: rest =>
    if c = ':' ∨ c = ')' then
      if seen.head? = some '-' then none else some (⟨seen, verbose, c = ':'⟩, rest)
    else if seen.contains c then none
    else if c = '-' then options? (c :: seen) true verbose rest
    else if c = 'x' then options? (c :: seen) off (some !off) rest
    else if "imsUu".toList.contains c then options? (c :: seen) off verbose rest
    else none

/-- A group's name up to its closing bracket, and the text after it. -/
def name? (text : List Char) : Option (List Char × List Char) :=
  let isNameCharacter (c : Char) : Bool := c == '_' || Unicode.isAlphanumeric c
  let name := text.takeWhile isNameCharacter
  match text.dropWhile isNameCharacter with
  | '>' :: rest =>
    if name.head?.any fun c => c == '_' || Unicode.isAlphabetic c then some (name, rest)
    else none
  | _ => none

/-- The greatest number of repetitions that can be written. -/
def greatestCount : Nat := 4294967295

def count? (text : List Char) : Option (Nat × List Char) :=
  let text := text.dropWhile isBlank
  let digits := text.takeWhile Char.isDigit
  let n := Digits.number digits
  if digits.isEmpty ∨ greatestCount < n then none
  else some (n, (text.dropWhile Char.isDigit).dropWhile isBlank)

/-- The text after counted repetition, of which the opening brace has been read. -/
def counted? (text : List Char) : Option (List Char) :=
  (count? text).bind fun (least, rest) =>
    match rest with
    | '\x7d' :: rest => some rest
    | ',' :: rest =>
      match rest.dropWhile isBlank with
      | '\x7d' :: rest => some rest
      | rest =>
        (count? rest).bind fun (most, rest) =>
          match rest with
          | '\x7d' :: rest => if least ≤ most then some rest else none
          | _ => none
    | _ => none

/-- The text without the sign of reluctance that it may begin with. -/
def dropReluctance : List Char → List Char
  | '?' :: rest => rest
  | rest => rest

/-- Opens a group, of which the parenthesis has been read. -/
def openGroup (progress : Progress) (text : List Char) : Except Fault (Progress × List Char) :=
  let opened (verbose : Bool) (names : List (List Char)) : Progress :=
    { progress with
      verbose, names, outer := progress.verbose :: progress.outer, repeatable := false }
  let named (text : List Char) : Except Fault (Progress × List Char) :=
    match name? text with
    | some (name, rest) =>
      if progress.names.contains name then .error .malformed
      else .ok (opened progress.verbose (name :: progress.names), rest)
    | none => .error .malformed
  match skipIf progress.verbose text with
  | '?' :: '=' :: _ => .error .beyond
  | '?' :: '!' :: _ => .error .beyond
  | '?' :: '<' :: '=' :: _ => .error .beyond
  | '?' :: '<' :: '!' :: _ => .error .beyond
  | '?' :: '<' :: rest => named rest
  | '?' :: 'P' :: '<' :: rest => named rest
  | '?' :: rest =>
    match options? [] false none rest with
    | none => .error .malformed
    | some (options, rest) =>
      let verbose := options.verbose.getD progress.verbose
      if options.opens then .ok (opened verbose progress.names, rest)
      else if options.letters.isEmpty then .error .malformed
      else .ok ({ progress with verbose, repeatable := false }, rest)
  | rest => .ok (opened progress.verbose progress.names, rest)

def step (progress : Progress) : List Char → Except Fault (Progress × List Char)
  | [] => .error .malformed
  | '(' :: rest => openGroup progress rest
  | ')' :: rest =>
    match progress.outer with
    | verbose :: outer => .ok ({ progress with verbose, outer, repeatable := true }, rest)
    | [] => .error .malformed
  | '|' :: rest => .ok ({ progress with repeatable := false }, rest)
  | '[' :: rest =>
    (SetNotation.read progress.verbose rest).map fun (_, rest) =>
      ({ progress with repeatable := true }, rest)
  | '\x7b' :: rest =>
    match counted? rest with
    | some rest =>
      if progress.repeatable then .ok (progress, dropReluctance rest) else .error .malformed
    | none => .error .malformed
  | '\\' :: rest =>
    (Escape.read rest).map fun (escape, rest) =>
      ({ progress with repeatable := true, bell := progress.bell || escape matches .bell }, rest)
  | c :: rest =>
    if c = '?' ∨ c = '*' ∨ c = '+' then
      if progress.repeatable then .ok (progress, dropReluctance rest) else .error .malformed
    else .ok ({ progress with repeatable := true }, rest)

/-- Goes through a text; each step uses up a character. -/
def checkFrom : Nat → Progress → List Char → Except Fault Unit
  | 0, _, _ => .error .malformed
  | fuel + 1, progress, text =>
    match skipIf progress.verbose text with
    | [] => if progress.outer.isEmpty && !progress.bell then .ok () else .error .malformed
    | text =>
      match step progress text with
      | .ok (progress, rest) => checkFrom fuel progress rest
      | .error fault => .error fault

def check (text : List Char) : Except Fault Unit :=
  checkFrom (text.length + 1) ⟨false, [], false, [], false⟩ text

end Standard

end Regex

end FormTree
