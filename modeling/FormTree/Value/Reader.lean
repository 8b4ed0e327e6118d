import FormTree.Text.Digits
import FormTree.Value.Basic

/-!
# Reading JSON text

`Value.entries?` reads a text as it stands, with the members of a mapping in the order of the text
and repeated keys kept; `Value.read?` puts the result in order. A reader that must refuse a repeated
key uses the first, everything else the second.

Every step consumes at least one character, so the number of characters bounds the depth of the
recursion and serves as fuel.
-/

namespace FormTree

namespace Value

def isJsonSpace (c : Char) : Bool := c == ' ' || c == '\t' || c == '\n' || c == '\r'

def skipSpace (text : List Char) : List Char := text.dropWhile isJsonSpace

/-- The code unit of a `\u` escape: four hexadecimal digits, and what follows them. -/
def codeUnit? (text : List Char) : Option (Nat × List Char) :=
  if (text.take 4).length = 4 then (Digits.hexNumber? (text.take 4)).map (·, text.drop 4) else none

/-- The character of a `\u` escape. A high surrogate needs its low partner; no surrogate stands
alone. -/
def unicodeEscape? (text : List Char) : Option (Char × List Char) :=
  (codeUnit? text).bind fun (high, rest) =>
    if 0xD800 ≤ high ∧ high < 0xDC00 then
      match rest with
      | '\\' :: 'u' :: more =>
        (codeUnit? more).bind fun (low, rest) =>
          if 0xDC00 ≤ low ∧ low < 0xE000 then
            some (Char.ofNat (0x10000 + (high - 0xD800) * 0x400 + (low - 0xDC00)), rest)
          else none
      | _ => none
    else if 0xDC00 ≤ high ∧ high < 0xE000 then none
    else some (Char.ofNat high, rest)

def shortEscape? : Char → Option Char
  | '"' => some '"'
  | '\\' => some '\\'
  | '/' => some '/'
  | 'b' => some '\x08'
  | 'f' => some '\x0c'
  | 'n' => some '\n'
  | 'r' => some '\r'
  | 't' => some '\t'
  | _ => none

/-- The rest of a string after its opening quote, with `done` the characters read, last first. -/
def stringRest? : Nat → List Char → List Char → Option (String × List Char)
  | 0, _, _ => none
  | fuel + 1, done, text =>
    match text with
    | '"' :: rest => some (String.ofList done.reverse, rest)
    | '\\' :: 'u' :: rest =>
      (unicodeEscape? rest).bind fun (c, rest) => stringRest? fuel (c :: done) rest
    | '\\' :: c :: rest => (shortEscape? c).bind fun c => stringRest? fuel (c :: done) rest
    | c :: rest => if c.toNat < 32 then none else stringRest? fuel (c :: done) rest
    | [] => none

/-- The digits at the start, and what follows them. -/
def splitDigits (text : List Char) : List Char × List Char :=
  (text.takeWhile Char.isDigit, text.dropWhile Char.isDigit)

/-- An exponent part, if there is one: `e` or `E`, a sign, digits. -/
def exponentPart? (text : List Char) : Option (Option Int × List Char) :=
  match text with
  | c :: rest =>
    if c = 'e' ∨ c = 'E' then
      let signed := match rest with
        | '-' :: more => (true, more)
        | '+' :: more => (false, more)
        | more => (false, more)
      let (digits, more) := splitDigits signed.2
      if digits.isEmpty then none
      else
        let amount : Int := Digits.number digits
        some (some (if signed.1 then -amount else amount), more)
    else some (none, text)
  | [] => some (none, [])

/-- A fraction part, if there is one: a point and digits. -/
def fractionPart? (text : List Char) : Option (Option (List Char) × List Char) :=
  match text with
  | '.' :: rest =>
    let (digits, more) := splitDigits rest
    if digits.isEmpty then none else some (some digits, more)
  | _ => some (none, text)

/-- The number with the given parts. Without fraction and exponent it is an integer as long as a
word holds it; a negative zero is never an integer. -/
def numberOfParts? (negative : Bool) (whole : List Char) (fraction : Option (List Char))
    (power : Option Int) : Option Number :=
  let amount : Int := Digits.number whole
  let signed := if negative then -amount else amount
  if fraction.isNone ∧ power.isNone ∧ Number.InWordRange signed ∧ ¬ (negative ∧ amount = 0) then
    some (.int signed)
  else
    let digits := whole ++ fraction.getD []
    let scale := power.getD 0 - ((fraction.getD []).length : Int)
    (Binary64.ofDecimal? negative (Digits.number digits) scale).map .float

def number? (text : List Char) : Option (Number × List Char) := do
  let (negative, unsigned) := match text with
    | '-' :: rest => (true, rest)
    | _ => (false, text)
  let (whole, rest) := splitDigits unsigned
  if whole.isEmpty ∨ (whole.head? = some '0' ∧ whole.length ≠ 1) then none
  let (fraction, rest) ← fractionPart? rest
  let (power, rest) ← exponentPart? rest
  let n ← numberOfParts? negative whole fraction power
  pure (n, rest)

/-- The literal `word`, standing for `v`. -/
def literal? (word : String) (v : Value) (text : List Char) : Option (Value × List Char) :=
  if word.toList.isPrefixOf text then some (v, text.drop word.length) else none

mutual

/-- A value at the start of the text, after blanks. -/
def value? : Nat → List Char → Option (Value × List Char)
  | 0, _ => none
  | fuel + 1, text =>
    match skipSpace text with
    | '\x7b' :: rest =>
      match skipSpace rest with
      | '\x7d' :: rest => some (.obj [], rest)
      | rest => (memberList? fuel rest).map fun (ms, rest) => (.obj ms, rest)
    | '[' :: rest =>
      match skipSpace rest with
      | ']' :: rest => some (.arr [], rest)
      | rest => (itemList? fuel rest).map fun (xs, rest) => (.arr xs, rest)
    | '"' :: rest => (stringRest? (fuel + 1) [] rest).map fun (s, rest) => (.str s, rest)
    | 't' :: rest => literal? "rue" (.bool true) rest
    | 'f' :: rest => literal? "alse" (.bool false) rest
    | 'n' :: rest => literal? "ull" .null rest
    | text => (number? text).map fun (n, rest) => (.num n, rest)

/-- One or more values between commas, up to the closing bracket. -/
def itemList? : Nat → List Char → Option (List Value × List Char)
  | 0, _ => none
  | fuel + 1, text =>
    (value? fuel text).bind fun (x, rest) =>
      match skipSpace rest with
      | ',' :: rest => (itemList? fuel rest).map fun (xs, rest) => (x :: xs, rest)
      | ']' :: rest => some ([x], rest)
      | _ => none

/-- One or more members between commas, up to the closing brace. -/
def memberList? : Nat → List Char → Option (List (String × Value) × List Char)
  | 0, _ => none
  | fuel + 1, text =>
    match skipSpace text with
    | '"' :: rest =>
      (stringRest? (fuel + 1) [] rest).bind fun (k, rest) =>
        match skipSpace rest with
        | ':' :: rest =>
          (value? fuel rest).bind fun (x, rest) =>
            match skipSpace rest with
            | ',' :: rest => (memberList? fuel rest).map fun (ms, rest) => ((k, x) :: ms, rest)
            | '\x7d' :: rest => some ([(k, x)], rest)
            | _ => none
        | _ => none
    | _ => none

end

/-- The value of a whole text, members as written. -/
def entries? (text : String) : Option Value :=
  let chars := text.toList
  match value? (chars.length + 1) chars with
  | some (v, rest) => if (skipSpace rest).isEmpty then some v else none
  | none => none

/-- The value of a whole text, in order. -/
def read? (text : String) : Option Value := (entries? text).map ordered

end Value

end FormTree
