import FormTree.Calendar.Writing
import FormTree.Text.Digits

/-!
# Reading a date

Reading a text with a pattern collects quantities: a year, a month, a weekday and so on, each at
most once or every time with the same amount. The date is then found from the first sufficient
combination of them, and it has to agree with everything that was read. Quantities of the clock are
read and checked against one another, but no date depends on them.
-/

namespace FormTree

/-- What a field of a pattern says something about. Weekdays count from Monday as 0. -/
inductive Quantity where
  | year | century | yearOfCentury
  | isoYear | isoYearOfCentury | isoWeek
  | quarter | month | day | ordinal
  | weekFromSunday | weekFromMonday | weekday
  | half | hourOfHalf | minute | second | nanosecond | timestamp | offset
deriving DecidableEq

namespace Quantity

def isClock : Quantity → Bool
  | .half | .hourOfHalf | .minute | .second | .nanosecond | .timestamp | .offset => true
  | _ => false

end Quantity

/-- The amount of a quantity at a date. Years before year 0 have no century. -/
def Date.quantity? (date : Date) : Quantity → Option Int
  | .year => some date.year
  | .century => if 0 ≤ date.year then some (date.year / 100) else none
  | .yearOfCentury => if 0 ≤ date.year then some (date.year % 100) else none
  | .isoYear => some date.isoWeek.1
  | .isoYearOfCentury => if 0 ≤ date.isoWeek.1 then some (date.isoWeek.1 % 100) else none
  | .isoWeek => some date.isoWeek.2
  | .quarter => some date.quarter
  | .month => some date.month
  | .day => some date.day
  | .ordinal => some date.ordinal
  | .weekFromSunday => some date.weekFromSunday
  | .weekFromMonday => some date.weekFromMonday
  | .weekday => some date.weekday
  | _ => none

abbrev Amounts := List (Quantity × Int)

namespace Amounts

def find? (quantity : Quantity) (amounts : Amounts) : Option Int :=
  (List.find? (fun entry => decide (entry.1 = quantity)) amounts).map Prod.snd

/-- Notes an amount; the same quantity cannot have two. -/
def note? (quantity : Quantity) (amount : Int) (amounts : Amounts) : Option Amounts :=
  match find? quantity amounts with
  | none => some ((quantity, amount) :: amounts)
  | some known => if known = amount then some amounts else none

/-- The year from its full number, or from its century and its place there. Without a century the
place stands for a year from 1970 to 2069. -/
def fullYear? (full century place : Option Int) : Option Int :=
  match full, century, place with
  | some year, none, none => some year
  | some year, century, place =>
    if 0 ≤ year ∧ century.getD (year / 100) = year / 100 ∧ place.getD (year % 100) = year % 100 then
      some year
    else none
  | none, some century, some place => some (century * 100 + place)
  | none, none, some place => some (if place < 70 then 2000 + place else 1900 + place)
  | none, _, none => none

/-- Amounts that say something about the year need to make one up. -/
def consistentYear (full century place year : Option Int) : Bool :=
  (full.isNone && century.isNone && place.isNone) || year.isSome

/-- The date has every amount that was read, but for those of the clock. -/
def agree (amounts : Amounts) (date : Date) : Bool :=
  amounts.all fun (quantity, amount) =>
    quantity.isClock || date.quantity? quantity = some amount

/-- The date of the first sufficient combination: a month and a day, an ordinal, or a week and a
weekday. -/
def candidate? (amounts : Amounts) (year isoYear : Option Int) : Option Date :=
  let amount? (quantity : Quantity) : Option Nat := (find? quantity amounts).map Int.toNat
  match year, amount? .month, amount? .day, amount? .ordinal, amount? .weekday with
  | some year, some month, some day, _, _ => Date.ofParts? year month day
  | some year, _, _, some ordinal, _ => Date.ofOrdinal? year ordinal
  | year, _, _, _, some weekday =>
    match year, amount? .weekFromSunday, amount? .weekFromMonday, isoYear, amount? .isoWeek with
    | some year, some week, _, _, _ => Date.ofWeek? year week weekday 6
    | some year, none, some week, _, _ => Date.ofWeek? year week weekday 0
    | _, _, _, some year, some week => Date.ofIsoWeek? year week weekday
    | _, _, _, _, _ => none
  | _, _, _, _, none => none

/-- The date that the amounts determine. -/
def date? (amounts : Amounts) : Option Date :=
  let full := find? .year amounts
  let century := find? .century amounts
  let place := find? .yearOfCentury amounts
  let year := fullYear? full century place
  let isoFull := find? .isoYear amounts
  let isoPlace := find? .isoYearOfCentury amounts
  let isoYear := fullYear? isoFull none isoPlace
  if consistentYear full century place year && consistentYear isoFull none isoPlace isoYear then
    (candidate? amounts year isoYear).filter amounts.agree
  else none

end Amounts

namespace Reading

/-- The amounts read and the text that is left. -/
abbrev Step := Amounts × List Char

/-- A number of at least one and at most `width` digits; without a width, of any number of them. -/
def digits? (width : Option Nat) (text : List Char) : Option (Nat × List Char) :=
  let run := text.takeWhile Char.isDigit
  let taken := match width with
    | some w => run.take w
    | none => run
  if taken.isEmpty then none else some (Digits.number taken, text.drop taken.length)

/-- A number that may have a sign, and then any number of digits. -/
def signed? (width : Nat) : List Char → Option (Int × List Char)
  | '-' :: rest => (digits? none rest).map fun (n, rest) => (-(n : Int), rest)
  | '+' :: rest => (digits? none rest).map fun (n, rest) => ((n : Int), rest)
  | text => (digits? (some width) text).map fun (n, rest) => ((n : Int), rest)

/-- The width of a number field, and whether it may have a sign. -/
def shape : NumberField → Option Nat × Bool
  | .year | .isoYear => (some 4, true)
  | .ordinal => (some 3, false)
  | .quarter | .daysFromSunday | .daysFromMonday => (some 1, false)
  | .nanosecond => (some 9, false)
  | .timestamp => (none, false)
  | _ => (some 2, false)

def noteWithin? (low high : Int) (quantity : Quantity) (amount : Int) (amounts : Amounts) :
    Option Amounts :=
  if low ≤ amount ∧ amount ≤ high then amounts.note? quantity amount else none

def noteNumber? (amount : Int) (amounts : Amounts) : NumberField → Option Amounts
  | .year => noteWithin? (-0x80000000) 0x7fffffff .year amount amounts
  | .century => noteWithin? 0 99 .century amount amounts
  | .yearOfCentury => noteWithin? 0 99 .yearOfCentury amount amounts
  | .isoYear => noteWithin? (-0x80000000) 0x7fffffff .isoYear amount amounts
  | .isoYearOfCentury => noteWithin? 0 99 .isoYearOfCentury amount amounts
  | .isoWeek => noteWithin? 1 53 .isoWeek amount amounts
  | .quarter => noteWithin? 1 4 .quarter amount amounts
  | .month => noteWithin? 1 12 .month amount amounts
  | .day => noteWithin? 1 31 .day amount amounts
  | .ordinal => noteWithin? 1 366 .ordinal amount amounts
  | .weekFromSunday => noteWithin? 0 53 .weekFromSunday amount amounts
  | .weekFromMonday => noteWithin? 0 53 .weekFromMonday amount amounts
  | .daysFromSunday =>
    if amount ≤ 6 then amounts.note? .weekday ((amount + 6) % 7) else none
  | .daysFromMonday => noteWithin? 0 6 .weekday (amount - 1) amounts
  | .hour =>
    if amount ≤ 23 then
      (amounts.note? .half (amount / 12)).bind (Amounts.note? .hourOfHalf (amount % 12))
    else none
  | .hourOfHalf =>
    if 1 ≤ amount ∧ amount ≤ 12 then amounts.note? .hourOfHalf (amount % 12) else none
  | .minute => noteWithin? 0 59 .minute amount amounts
  | .second => noteWithin? 0 60 .second amount amounts
  | .nanosecond => noteWithin? 0 999999999 .nanosecond amount amounts
  | .timestamp => noteWithin? 0 0x7fffffffffffffff .timestamp amount amounts

def numberField? (field : NumberField) : Step → Option Step
  | (amounts, text) =>
    let start := trimStart text
    let (width, hasSign) := shape field
    let parsed :=
      if hasSign then signed? (width.getD 0) start
      else (digits? width start).map fun (n, rest) => ((n : Int), rest)
    parsed.bind fun (amount, rest) => (noteNumber? amount amounts field).map (·, rest)

def lower (text : List Char) : List Char := text.map Char.toLower

/-- The text is at the start, whatever the case of its ASCII letters; what follows it. -/
def skipWord? (word text : List Char) : Option (List Char) :=
  if lower (text.take word.length) = lower word ∧ word.length ≤ text.length then
    some (text.drop word.length)
  else none

/-- The first of the names whose first three letters are at the start, and what follows them. A long
name may also be spelled out. -/
def nameIn? (long : Bool) (text : List Char) : Nat → List (List Char) → Option (Nat × List Char)
  | _, [] => none
  | index, name :: rest =>
    match skipWord? (name.take 3) text with
    | some left =>
      some (index, if long then (skipWord? (name.drop 3) left).getD left else left)
    | none => nameIn? long text (index + 1) rest

def nameField? (field : NameField) : Step → Option Step
  | (amounts, text) =>
    let month (long : Bool) : Option Step :=
      (nameIn? long text 1 Date.monthNames).bind fun (n, rest) =>
        (amounts.note? .month n).map (·, rest)
    let weekday (long : Bool) : Option Step :=
      (nameIn? long text 0 Date.weekdayNames).bind fun (n, rest) =>
        (amounts.note? .weekday n).map (·, rest)
    match field with
    | .shortMonth => month false
    | .longMonth => month true
    | .shortWeekday => weekday false
    | .longWeekday => weekday true

/-! ### The clock -/

/-- Digits of a fraction of a second, as nanoseconds. -/
def nanoseconds (digits : List Char) : Nat := Digits.number digits * Nat.pow 10 (9 - digits.length)

/-- A fraction with its point, if there is one; digits after the ninth are passed over. -/
def fraction? : Step → Option Step
  | (amounts, '.' :: text) =>
    let run := text.takeWhile Char.isDigit
    if run.isEmpty then none
    else (amounts.note? .nanosecond (nanoseconds (run.take 9))).map (·, text.drop run.length)
  | step => some step

/-- A fraction of a fixed number of digits, without a point. -/
def fractionDigits? (count : Nat) : Step → Option Step
  | (amounts, text) =>
    let run := (text.take count).takeWhile Char.isDigit
    if run.length = count then
      (amounts.note? .nanosecond (nanoseconds run)).map (·, text.drop count)
    else none

def halfDay? : Step → Option Step
  | (amounts, text) =>
    match skipWord? ['a', 'm'] text with
    | some rest => (amounts.note? .half 0).map (·, rest)
    | none =>
      (skipWord? ['p', 'm'] text).bind fun rest => (amounts.note? .half 1).map (·, rest)

def twoDigits? : List Char → Option (Nat × List Char)
  | a :: b :: rest => if a.isDigit ∧ b.isDigit then some (Digits.number [a, b], rest) else none
  | _ => none

/-- The minutes of an offset after its hours; a lenient offset may leave them out. -/
def offsetMinutes? (lenient : Bool) (text : List Char) : Option (Nat × List Char) :=
  match text with
  | _ :: _ :: _ =>
    (twoDigits? text).bind fun (minutes, rest) =>
      if minutes < 60 then some (minutes, rest) else none
  | [_] => none
  | [] => if lenient then some (0, []) else none

/-- An offset from universal time: a sign, two digits of hours, two of minutes, a colon or blanks
between them allowed. -/
def offset? (zulu lenient : Bool) : Step → Option Step
  | (amounts, text) =>
    let signedOffset (negative : Bool) (rest : List Char) : Option Step :=
      (twoDigits? rest).bind fun (hours, rest) =>
        let minutesText := rest.dropWhile fun c => c == ':' || isBlank c
        (offsetMinutes? lenient minutesText).bind fun (minutes, rest) =>
          let seconds : Int := hours * 3600 + minutes * 60
          (amounts.note? .offset (if negative then -seconds else seconds)).map (·, rest)
    match text with
    | [] => none
    | c :: rest =>
      if zulu ∧ (c = 'Z' ∨ c = 'z') then (amounts.note? .offset 0).map (·, rest)
      else if c = '+' then signedOffset false rest
      else if c = '-' ∨ c = '\u2212' then signedOffset true rest
      else none

/-- Reads past one item, an instant excepted. -/
def plain? (step : Step) : Item → Option Step
  | .literal c =>
    match step.2 with
    | d :: rest => if c = d then some (step.1, rest) else none
    | [] => none
  | .blank _ => some (step.1, trimStart step.2)
  | .number field _ => numberField? field step
  | .name field => nameField? field step
  | .clock .halfDay => halfDay? step
  | .clock .fraction => fraction? step
  | .clock (.fractionDigits count) => fractionDigits? count step
  | .clock .zoneName => some (step.1, step.2.dropWhile fun c => !isBlank c)
  | .clock (.offset lenient) => offset? lenient lenient (step.1, trimStart step.2)
  | .clock .instant => none
  | .invalid => none

/-- An instant: a date, a `T` or a space, a time and an offset or `UTC`. -/
def instant? (step : Step) : Option Step := do
  let (amounts, rest) ← (Pattern.ofLetter 'F').foldlM plain? step
  let time ← match rest with
    | c :: rest => if c = 't' ∨ c = 'T' ∨ c = ' ' then some rest else none
    | [] => none
  let (amounts, rest) ←
    (Pattern.ofLetter 'T' ++ [Item.clock .fraction]).foldlM plain? (amounts, time)
  let zone := trimStart rest
  match skipWord? ['u', 't', 'c'] zone with
  | some rest => (amounts.note? .offset 0).map (·, rest)
  | none => offset? true false (amounts, zone)

def item? (step : Step) (item : Item) : Option Step :=
  match item with
  | .clock .instant => instant? step
  | item => plain? step item

/-- The amounts in a text that follows the items from its start to its end. -/
def amounts? (items : List Item) (text : List Char) : Option Amounts :=
  (items.foldlM item? ([], text)).bind fun (amounts, rest) =>
    if rest.isEmpty then some amounts else none

end Reading

def Date.parse? (pattern text : String) : Option Date :=
  (Reading.amounts? (Pattern.items pattern.toList) text.toList).bind Amounts.date?

end FormTree
