import FormTree.Settings.Basic
import FormTree.Text.Digits

/-!
# Settings as TOML

The part of TOML that settings need: lines of a bare or quoted key, `=` and a string, with blank
lines and comments between them. Strings may be basic or literal, on one line or on several.
Everything else in TOML would be a setting that does not exist or a value that is no text, so
refusing it is right.

Lines end with a line feed, with or without a carriage return before it; inside a string both become
a line feed.
-/

namespace FormTree

namespace Toml

def isSpace (c : Char) : Bool := c == ' ' || c == '\t'

def skipSpace (text : List Char) : List Char := text.dropWhile isSpace

/-- A character that may stand in a comment or a string: no control character but the tab. -/
def isPrintable (c : Char) : Bool := c == '\t' || (32 ≤ c.toNat && c.toNat ≠ 127)

def newline? : List Char → Option (List Char)
  | '\n' :: rest => some rest
  | '\r' :: '\n' :: rest => some rest
  | _ => none

/-- What follows the blanks and the comment at the end of a line, with its line end. -/
def lineEnd? (text : List Char) : Option (List Char) :=
  let left := match skipSpace text with
    | '#' :: rest => rest.dropWhile isPrintable
    | rest => rest
  match left with
  | [] => some []
  | left => newline? left

def escape? : Char → Option Char
  | 'b' => some '\x08'
  | 't' => some '\t'
  | 'n' => some '\n'
  | 'f' => some '\x0c'
  | 'r' => some '\r'
  | '"' => some '"'
  | '\\' => some '\\'
  | _ => none

/-- The rest of a basic string after its opening quote, with `done` the characters read, last
first. -/
def basicRest? (done : List Char) : List Char → Option (String × List Char)
  | '"' :: rest => some (String.ofList done.reverse, rest)
  | '\\' :: 'u' :: a :: b :: c :: d :: rest =>
    (Digits.hexChar? [a, b, c, d]).bind fun char => basicRest? (char :: done) rest
  | '\\' :: 'U' :: a :: b :: c :: d :: e :: f :: g :: h :: rest =>
    (Digits.hexChar? [a, b, c, d, e, f, g, h]).bind fun char => basicRest? (char :: done) rest
  | '\\' :: c :: rest => (escape? c).bind fun char => basicRest? (char :: done) rest
  | c :: rest => if isPrintable c then basicRest? (c :: done) rest else none
  | [] => none

/-- The rest of a literal string after its opening quote. -/
def literalRest? (done : List Char) : List Char → Option (String × List Char)
  | '\'' :: rest => some (String.ofList done.reverse, rest)
  | c :: rest => if isPrintable c then literalRest? (c :: done) rest else none
  | [] => none

/-- The rest of a basic string of several lines. A backslash at the end of a line drops the line end
and all blanks and line ends after it, which is the mode `dropping`. Up to two quotes may stand
before the closing three. -/
def longBasicRest? (dropping : Bool) (done : List Char) : List Char → Option (String × List Char)
  | '"' :: '"' :: '"' :: '"' :: '"' :: rest =>
    some (String.ofList ('"' :: '"' :: done).reverse, rest)
  | '"' :: '"' :: '"' :: '"' :: rest => some (String.ofList ('"' :: done).reverse, rest)
  | '"' :: '"' :: '"' :: rest => some (String.ofList done.reverse, rest)
  | '\\' :: 'u' :: a :: b :: c :: d :: rest =>
    (Digits.hexChar? [a, b, c, d]).bind fun char => longBasicRest? false (char :: done) rest
  | '\\' :: 'U' :: a :: b :: c :: d :: e :: f :: g :: h :: rest =>
    (Digits.hexChar? [a, b, c, d, e, f, g, h]).bind fun char =>
      longBasicRest? false (char :: done) rest
  | '\\' :: c :: rest =>
    match escape? c with
    | some char => longBasicRest? false (char :: done) rest
    | none =>
      if (newline? (skipSpace (c :: rest))).isSome then longBasicRest? true done rest else none
  | '\r' :: '\n' :: rest => longBasicRest? dropping (if dropping then done else '\n' :: done) rest
  | c :: rest =>
    if dropping ∧ (c = '\n' ∨ isSpace c) then longBasicRest? true done rest
    else if c = '\n' ∨ isPrintable c then longBasicRest? false (c :: done) rest
    else none
  | [] => none

/-- The rest of a literal string of several lines. -/
def longLiteralRest? (done : List Char) : List Char → Option (String × List Char)
  | '\'' :: '\'' :: '\'' :: '\'' :: '\'' :: rest =>
    some (String.ofList ('\'' :: '\'' :: done).reverse, rest)
  | '\'' :: '\'' :: '\'' :: '\'' :: rest => some (String.ofList ('\'' :: done).reverse, rest)
  | '\'' :: '\'' :: '\'' :: rest => some (String.ofList done.reverse, rest)
  | '\r' :: '\n' :: rest => longLiteralRest? ('\n' :: done) rest
  | c :: rest =>
    if c = '\n' ∨ isPrintable c then longLiteralRest? (c :: done) rest else none
  | [] => none

/-- The text of a long string does not begin with the line end right after its quotes. -/
def skipNewline (text : List Char) : List Char := (newline? text).getD text

def string? : List Char → Option (String × List Char)
  | '"' :: '"' :: '"' :: rest => longBasicRest? false [] (skipNewline rest)
  | '\'' :: '\'' :: '\'' :: rest => longLiteralRest? [] (skipNewline rest)
  | '"' :: rest => basicRest? [] rest
  | '\'' :: rest => literalRest? [] rest
  | _ => none

def isBareKeyChar (c : Char) : Bool := c.isAlphanum || c == '_' || c == '-'

def key? : List Char → Option (String × List Char)
  | '"' :: rest => basicRest? [] rest
  | '\'' :: rest => literalRest? [] rest
  | text =>
    let bare := text.takeWhile isBareKeyChar
    if bare.isEmpty then none else some (String.ofList bare, text.dropWhile isBareKeyChar)

/-- A key, an equals sign and a string. -/
def assignment? (text : List Char) : Option ((String × String) × List Char) :=
  (key? text).bind fun (key, rest) =>
    match skipSpace rest with
    | '=' :: rest => (string? (skipSpace rest)).map fun (value, rest) => ((key, value), rest)
    | _ => none

/-- The entries of the lines of a text. Every line uses up a character, so their number serves as
fuel. -/
def entriesFrom? : Nat → List Char → Option (List (String × String))
  | 0, _ => none
  | fuel + 1, text =>
    match skipSpace text with
    | [] => some []
    | line =>
      match lineEnd? line with
      | some rest => entriesFrom? fuel rest
      | none =>
        (assignment? line).bind fun (entry, rest) =>
          (lineEnd? rest).bind fun rest => (entriesFrom? fuel rest).map (entry :: ·)

/-- The entries of a whole text, in its order; a byte order mark at the start does not count. -/
def entries? (text : String) : Option (List (String × String)) :=
  let chars := match text.toList with
    | '\ufeff' :: rest => rest
    | chars => chars
  entriesFrom? (chars.length + 1) chars

end Toml

def Settings.readToml (text : String) : Except FieldError Settings :=
  accept ((Toml.entries? text).bind ofEntries?)

end FormTree
