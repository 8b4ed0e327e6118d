import FormTree.Regex.Basic
import FormTree.Regex.Notation

/-!
# The extended grammar

Reads regular expressions with looking around, references back, atomic parts and choices by a
condition. Nothing may be repeated that is a position, and a repetition is not repeated again
without a group around it: a second sign makes the text malformed, but for a plus, which makes the
repetition atomic. A brace that begins no repetition is a character.

Options stay in force up to the end of the text or of the group without a number that they stand in.
-/

namespace FormTree

namespace Regex

/-- Options that change the meaning of what follows them. -/
structure Options where
  ignoreCase : Bool
  multiline : Bool
  dotMatchesAll : Bool
  reluctant : Bool
  verbose : Bool

/-- What a reader knows before it begins: what the shorthands of sets mean, and how many bytes the
text has. -/
structure Scope where
  wide : Bool
  size : Nat

/-- What a reader has noted: the options in force, the groups begun and their names, and the groups
that are referred to. -/
structure Notes where
  options : Options
  groups : Nat
  names : List (List Char × Nat)
  references : List Nat
  /-- Some group is referred to by its number alone. -/
  byNumber : Bool

abbrev Reader := StateT Notes Option

namespace Reader

def options : Reader Options := do return (← get).options

/-- Gives back a text that has not changed. -/
def result {α : Type} (a : α) (rest : List Char) : Reader (α × List Char) := pure (a, rest)

/-- Fails unless the condition holds. -/
def require (condition : Bool) : Reader Unit := if condition then pure () else failure

/-! ### Blanks and comments -/

/-- What follows a comment in parentheses, of which the opening has been read. -/
def afterComment? : List Char → Option (List Char)
  | ')' :: rest => some rest
  | '\\' :: _ :: rest => afterComment? rest
  | '\\' :: [] => none
  | _ :: rest => afterComment? rest
  | [] => none

/-- The text without comments that it begins with and, in the verbose form, without blanks. -/
def ignored? (verbose : Bool) : Nat → List Char → Option (List Char)
  | 0, text => some text
  | fuel + 1, text =>
    match text with
    | '(' :: '?' :: '#' :: rest => (afterComment? rest).bind (ignored? verbose fuel)
    | c :: rest =>
      if verbose && c == '#' then ignored? verbose fuel (rest.dropWhile (· ≠ '\n'))
      else if verbose && (c == ' ' || c == '\n' || c == '\r' || c == '\t') then
        ignored? verbose fuel rest
      else some text
    | [] => some []

def ignore (text : List Char) : Reader (List Char) := do
  (ignored? (← options).verbose (text.length + 1) text : Option (List Char))

/-! ### References -/

def referTo (number : Nat) : Reader Unit :=
  modify fun notes => { notes with references := number :: notes.references }

/-- A reference by number. A number of half the size of the text or more cannot be that of a
group. -/
def numbered (scope : Scope) (text : List Char) : Reader (Nat × List Char) := do
  let digits := text.takeWhile Char.isDigit
  let number := Digits.number digits
  require (!digits.isEmpty && number < scope.size / 2)
  modify fun notes => { notes with byNumber := true }
  referTo number
  result number (text.dropWhile Char.isDigit)

def isNameCharacter (c : Char) : Bool := c == '_' || Unicode.isAlphanumeric c

/-- A name that ends with the given mark, and the text after the mark. -/
def name? (mark : Char) (text : List Char) : Option (List Char × List Char) :=
  let name := text.takeWhile isNameCharacter
  match text.dropWhile isNameCharacter with
  | c :: rest => if c = mark ∧ !name.isEmpty then some (name, rest) else none
  | [] => none

/-- A reference by a name or a number. Where it is allowed, a number after a hyphen counts back from
the group begun last. -/
def byName (mark : Char) (relative : Bool) (text : List Char) : Reader (Nat × List Char) := do
  let notes ← get
  let (back, text) := match text with
    | '-' :: rest => if relative then (true, rest) else (false, text)
    | text => (false, text)
  let (name, rest) ← (name? mark text : Option (List Char × List Char))
  let written := if name.all Char.isDigit then some (Digits.number name) else none
  let number ← (if back then
      written.bind fun n => if n ≤ notes.groups then some (notes.groups + 1 - n) else none
    else (notes.names.lookup name).or written : Option Nat)
  referTo number
  result number rest

/-! ### Escapes and sets -/

/-- What an escape stands for: a character, a set in its own notation, or another item. -/
inductive Escaped where
  | character (c : Char) (cased : Bool)
  | set (written : List Char)
  | item (r : Regex)

/-- A character by the number of its code point: exactly `count` digits, or up to eight in
braces. -/
def hexadecimal? (count : Nat) (text : List Char) : Option (Escaped × List Char) :=
  let isHex (c : Char) : Bool := (Digits.hexValue? c).isSome
  let digits := text.take count
  if digits.length = count ∧ digits.all isHex then
    (Digits.hexChar? digits).map fun c => (.character c true, text.drop count)
  else
    match text with
    | '\x7b' :: text =>
      let digits := text.takeWhile isHex
      match text.dropWhile isHex with
      | '\x7d' :: rest =>
        if digits.isEmpty ∨ 8 < digits.length then none
        else (Digits.hexChar? digits).map fun c => (.character c true, rest)
      | _ => none
    | _ => none

def property? (letter : Char) (text : List Char) : Option (Escaped × List Char) :=
  match text with
  | '\x7b' :: rest =>
    match rest.dropWhile (· ≠ '\x7d') with
    | _ :: after =>
      some (.set ('\\' :: letter :: '\x7b' :: rest.takeWhile (· ≠ '\x7d') ++ ['\x7d']), after)
    | [] => none
  | c :: rest => some (.set ['\\', letter, c], rest)
  | [] => none

/-- An escape with the same meaning inside brackets and outside. -/
def commonEscape? (c : Char) (rest : List Char) : Option (Escaped × List Char) :=
  let character (c : Char) : Option (Escaped × List Char) := some (.character c false, rest)
  match c with
  | 'd' => some (.set ['\\', 'd'], rest)
  | 'D' => some (.set ['\\', 'D'], rest)
  | 's' => some (.set ['\\', 's'], rest)
  | 'S' => some (.set ['\\', 'S'], rest)
  | 'w' => some (.set ['\\', 'w'], rest)
  | 'W' => some (.set ['\\', 'W'], rest)
  | 'h' => some (.set "[0-9A-Fa-f]".toList, rest)
  | 'H' => some (.set "[^0-9A-Fa-f]".toList, rest)
  | 'x' => hexadecimal? 2 rest
  | 'u' => hexadecimal? 4 rest
  | 'U' => hexadecimal? 8 rest
  | 'p' => property? 'p' rest
  | 'P' => property? 'P' rest
  | 'a' => character '\x07'
  | 'f' => character '\x0c'
  | 'n' => character '\n'
  | 'r' => character '\r'
  | 't' => character '\t'
  | 'v' => character '\x0b'
  | 'e' => character '\x1b'
  | c => if c.isAlphanum then none else character c

/-- An edge of words; a brace after it would narrow it down, which is not supported. -/
def edge (assertion : Assertion) (rest : List Char) : Reader (Escaped × List Char) := do
  match ← ignore rest with
  | '\x7b' :: _ => failure
  | _ => result (.item (.assertion assertion)) rest

def escape (scope : Scope) (text : List Char) : Reader (Escaped × List Char) := do
  match text with
  | [] => failure
  | c :: rest =>
    if c.isDigit then
      let (number, rest) ← numbered scope text
      result (.item (.backReference number)) rest
    else
      match c with
      | 'k' =>
        let (number, rest) ← match rest with
          | '\'' :: rest => byName '\'' true rest
          | '<' :: rest => byName '>' true rest
          | _ => failure
        result (.item (.backReference number)) rest
      | 'A' => result (.item (.assertion .textStart)) rest
      | 'z' => result (.item (.assertion .textEnd)) rest
      | 'b' => edge .wordEdge rest
      | 'B' => edge .noWordEdge rest
      | '<' => result (.item (.assertion .wordStart)) rest
      | '>' => result (.item (.assertion .wordEnd)) rest
      | 'K' => result (.item .skip) rest
      | 'G' => result (.item (.seq (.assertion .textStart) .empty)) rest
      | c => (commonEscape? c rest : Option (Escaped × List Char))

/-- The notation of an escape inside brackets, after its backslash, such that it needs no reading of
its own. -/
def bracketEscape? (text : List Char) : Option (List Char × List Char) :=
  let quoted (c : Char) : List Char := if Escape.isMeta c then ['\\', c] else [c]
  match text with
  | [] => none
  | c :: rest =>
    if c = 'b' then some (['\x08'], rest)
    else if "kAzBKG".toList.contains c then some ([c], rest)
    else
      (commonEscape? c rest).bind fun (escaped, rest) =>
        match escaped with
        | .character c _ => some (quoted c, rest)
        | .set written => some (written, rest)
        | .item _ => none

/-- The notation of a set up to the bracket that closes it, with escapes put in plain form. -/
def bracketed? : Nat → Nat → List Char → Option (List Char × List Char)
  | 0, _, _ => none
  | fuel + 1, depth, text =>
    let goOn (written : List Char) (depth : Nat) (rest : List Char) :
        Option (List Char × List Char) :=
      (bracketed? fuel depth rest).map fun (more, rest) => (written ++ more, rest)
    match text with
    | [] => none
    | '\\' :: rest => (bracketEscape? rest).bind fun (written, rest) => goOn written depth rest
    | '[' :: rest => goOn ['['] (depth + 1) rest
    | ']' :: rest =>
      match depth with
      | 0 => some ([']'], rest)
      | depth + 1 => goOn [']'] depth rest
    | c :: rest => goOn [c] depth rest

/-- The notation of a set after its opening bracket. A closing bracket that stands first is a
character. -/
def setNotation? (text : List Char) : Option (List Char × List Char) :=
  let (opening, text) : List Char × List Char := match text with
    | '^' :: rest => (['^'], rest)
    | text => ([], text)
  let (first, text) : List Char × List Char := match text with
    | ']' :: rest => ([']'], rest)
    | text => ([], text)
  (bracketed? (text.length + 1) 0 text).map fun (written, rest) =>
    (opening ++ first ++ written, rest)

def setOf? (scope : Scope) (ignoreCase : Bool) (written : List Char) : Option Regex :=
  match SetNotation.read false written with
  | .ok (set, []) => (set.set? scope.wide ignoreCase).map .char
  | _ => none

def character (ignoreCase : Bool) (c : Char) : Regex :=
  .char (.anyCaseIf ignoreCase (.single c))

/-! ### Repetition -/

/-- The bounds between braces, of which the opening one has been read. -/
def bounds (text : List Char) : Reader (Repetition × List Char) := do
  let number? (text : List Char) : Option Nat :=
    let digits := text.takeWhile Char.isDigit
    if digits.isEmpty then none else some (Digits.number digits)
  let text ← ignore text
  let least ← (match text with
    | ',' :: _ => some 0
    | text => number? text : Option Nat)
  match ← ignore (text.dropWhile Char.isDigit) with
  | '\x7d' :: rest => result ⟨least, some least⟩ rest
  | ',' :: rest =>
    let rest ← ignore rest
    match ← ignore (rest.dropWhile Char.isDigit) with
    | '\x7d' :: after => result ⟨least, number? rest⟩ after
    | _ => failure
  | _ => failure

/-- The repetition that a text begins with; a text that begins with none gives none. -/
def repetition? (text : List Char) : Reader (Option Repetition × List Char) :=
  match text with
  | '?' :: rest => result (some ⟨0, some 1⟩) rest
  | '*' :: rest => result (some ⟨0, none⟩) rest
  | '+' :: rest => result (some ⟨1, none⟩) rest
  | '\x7b' :: rest => do
    let notes ← get
    match (bounds rest).run notes with
    | some ((times, rest), _) => result (some times) rest
    | none => result none text
  | text => result none text

/-- Repeats an expression as the text says, if it says so. -/
def repeated (r : Regex) (text : List Char) : Reader (Regex × List Char) := do
  match ← repetition? text with
  | (none, rest) => result r rest
  | (some times, rest) =>
    require (r.isRepeatable && times.most.all (times.least ≤ ·))
    let reluctant := (← options).reluctant
    let rest ← ignore rest
    let (greedy, rest) := match rest with
      | '?' :: rest => (reluctant, rest)
      | rest => (!reluctant, rest)
    match rest with
    | '+' :: rest => result (.atomic (.repeated r times greedy)) rest
    | rest => result (.repeated r times greedy) rest

/-! ### Expressions -/

def greatestDepth : Nat := 63

/-- Switches an option on or off; letters of other options change nothing. -/
def setOption (letter : Char) (value : Bool) (options : Options) : Options :=
  match letter with
  | 'i' => { options with ignoreCase := value }
  | 'm' => { options with multiline := value }
  | 's' => { options with dotMatchesAll := value }
  | 'U' => { options with reluctant := value }
  | 'x' => { options with verbose := value }
  | _ => options

/-- Reads the letters of options and puts them in force, up to a colon or a closing parenthesis,
which is given back. -/
def optionLetters : Nat → Bool → Bool → List Char → Reader (Char × List Char)
  | 0, _, _, _ => failure
  | fuel + 1, off, any, text => do
    match ← ignore text with
    | [] => failure
    | c :: rest =>
      if c = ':' then
        require (any || !off)
        result ':' rest
      else if c = ')' then
        require any
        result ')' rest
      else if c = '-' then
        require !off
        optionLetters fuel true any rest
      else
        require ("imsUxu".toList.contains c && !(c == 'u' && off))
        modify fun notes => { notes with options := setOption c (!off) notes.options }
        optionLetters fuel off true rest

/-- The text after the parenthesis that has to follow. -/
def closed (text : List Char) : Reader (List Char) := do
  match ← ignore text with
  | ')' :: rest => return rest
  | _ => failure

/-- Begins a group with a number, and a name if there is one. -/
def beginGroup (name : Option (List Char)) : Reader Nat := do
  modify fun notes =>
    let number := notes.groups + 1
    { notes with
      groups := number
      names := match name with
        | some name => (name, number) :: notes.names
        | none => notes.names }
  return (← get).groups

mutual

/-- Alternatives. Names of groups exclude references by number. -/
def expression (scope : Scope) : Nat → Nat → List Char → Reader (Regex × List Char)
  | 0, _, _ => failure
  | fuel + 1, depth, text => do
    let (first, rest) ← branch scope fuel depth text
    let (others, rest) ← otherBranches scope fuel depth rest
    if others.isEmpty then
      let notes ← get
      require (!notes.byNumber || notes.names.isEmpty)
    result (.alternatives (first :: others)) rest

/-- The alternatives that follow the first one. -/
def otherBranches (scope : Scope) : Nat → Nat → List Char → Reader (List Regex × List Char)
  | 0, _, _ => failure
  | fuel + 1, depth, text => do
    match ← ignore text with
    | '|' :: rest =>
      let (next, rest) ← branch scope fuel depth rest
      let (others, rest) ← otherBranches scope fuel depth rest
      result (next :: others) rest
    | rest => result [] rest

def branch (scope : Scope) : Nat → Nat → List Char → Reader (Regex × List Char)
  | 0, _, _ => failure
  | fuel + 1, depth, text => do
    let (items, rest) ← items scope fuel depth text
    result (.sequence items) rest

def items (scope : Scope) : Nat → Nat → List Char → Reader (List Regex × List Char)
  | 0, _, _ => failure
  | fuel + 1, depth, text => do
    if text.isEmpty then result [] text
    else
      let (item, rest) ← atom scope fuel depth text
      let (item, rest) ← repeated item (← ignore rest)
      if rest.length = text.length then result [] text
      else
        let (others, rest) ← items scope fuel depth rest
        result (if item matches .empty then others else item :: others) rest

/-- One item without its repetition. -/
def atom (scope : Scope) : Nat → Nat → List Char → Reader (Regex × List Char)
  | 0, _, _ => failure
  | fuel + 1, depth, text => do
    let text ← ignore text
    let current ← options
    match text with
    | [] => result .empty text
    | '.' :: rest =>
      let newline := CharSet.single '\n'
      let excluded := if current.dotMatchesAll then CharSet.empty else newline
      result (.char (.complement excluded)) rest
    | '^' :: rest =>
      result (.assertion (if current.multiline then .lineStart else .textStart)) rest
    | '$' :: rest => result (.assertion (if current.multiline then .lineEnd else .textEnd)) rest
    | '(' :: rest => group scope fuel (depth + 1) rest
    | '[' :: rest =>
      let (written, rest) ← (setNotation? rest : Option (List Char × List Char))
      let r ← (setOf? scope current.ignoreCase written : Option Regex)
      result r rest
    | '\\' :: rest =>
      match ← escape scope rest with
      | (.character c cased, rest) => result (character (cased && current.ignoreCase) c) rest
      | (.set written, rest) =>
        let r ← (setOf? scope current.ignoreCase (written ++ [']']) : Option Regex)
        result r rest
      | (.item r, rest) => result r rest
    | c :: rest =>
      if "+*?|)".toList.contains c then result .empty text
      else result (character current.ignoreCase c) rest

/-- A group after its opening parenthesis. -/
def group (scope : Scope) : Nat → Nat → List Char → Reader (Regex × List Char)
  | 0, _, _ => failure
  | fuel + 1, depth, text => do
    require (depth ≤ greatestDepth)
    let around (make : Regex → Regex) (rest : List Char) : Reader (Regex × List Char) := do
      let (r, rest) ← expression scope fuel depth rest
      result (make r) (← closed rest)
    let captured (name : Option (List Char)) (rest : List Char) : Reader (Regex × List Char) := do
      let number ← beginGroup name
      around (.group number) rest
    let named (rest : List Char) : Reader (Regex × List Char) := do
      let (name, rest) ← (name? '>' rest : Option (List Char × List Char))
      captured (some name) rest
    match ← ignore text with
    | '?' :: '=' :: rest => around (.lookAhead true) rest
    | '?' :: '!' :: rest => around (.lookAhead false) rest
    | '?' :: '<' :: '=' :: rest => around (.lookBehind true) rest
    | '?' :: '<' :: '!' :: rest => around (.lookBehind false) rest
    | '?' :: '<' :: rest => named rest
    | '?' :: 'P' :: '<' :: rest => named rest
    | '?' :: 'P' :: '=' :: rest =>
      let (number, rest) ← byName ')' false rest
      result (.backReference number) rest
    | '?' :: '>' :: rest => around .atomic rest
    | '?' :: '(' :: rest => choice scope fuel depth rest
    | '?' :: rest =>
      let outside ← options
      match ← optionLetters (rest.length + 1) false false rest with
      | (':', rest) =>
        let (r, rest) ← expression scope fuel depth rest
        match rest with
        | ')' :: rest =>
          modify fun notes => { notes with options := outside }
          result r rest
        | _ => failure
      | (_, rest) => result .empty rest
    | rest => captured none rest

/-- A choice after the parenthesis that opens its condition: a reference, which asks whether the
group has been entered, or an expression. -/
def choice (scope : Scope) : Nat → Nat → List Char → Reader (Regex × List Char)
  | 0, _, _ => failure
  | fuel + 1, depth, text => do
    let asEntered (number : Nat) : Reader Regex := do
      require (number ≤ (← get).groups)
      return .entered number
    let (condition, rest) ← match text with
      | '\'' :: rest => do
        let (number, rest) ← byName '\'' true rest
        result (← asEntered number) rest
      | '<' :: rest => do
        let (number, rest) ← byName '>' true rest
        result (← asEntered number) rest
      | text => do
        if text.head?.any Char.isDigit then
          let (number, rest) ← numbered scope text
          result (← asEntered number) rest
        else
          match ← expression scope fuel depth text with
          | (.backReference number, rest) => result (← asEntered number) rest
          | (r, rest) => result r rest
    let text ← closed rest
    let (branches, rest) ← expression scope fuel depth text
    let after ← closed rest
    if rest.length = text.length then
      require (condition matches .entered _)
      result condition after
    else
      let (r, s) := match branches with
        | .alt r s => (r, s)
        | r => (r, .empty)
      result
        (if r matches .empty ∧ s matches .empty then condition else .choice condition r s) after

end

end Reader

/-- The expression that a text denotes in the extended grammar, and the groups that it refers to. No
more than five calls of the reader follow one another before a character is used up. -/
def extended? (wide : Bool) (text : List Char) : Option (Regex × List Nat) :=
  let scope : Scope := ⟨wide, (String.ofList text).utf8ByteSize⟩
  let start : Notes := ⟨⟨false, false, false, false, false⟩, 0, [], [], false⟩
  match (Reader.expression scope (6 * text.length + 12) 0 text).run start with
  | some ((r, []), notes) =>
    let r := r.splitLookBehind
    if r.looksBehindFixed && notes.references.all (fun n => 0 < n && n ≤ notes.groups) then
      some (r, notes.references)
    else none
  | _ => none

end Regex

end FormTree
