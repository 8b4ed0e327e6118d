import FormTree.Text.Blank

/-!
# Date patterns

A date pattern is text with `%` fields. `Pattern.items` splits it: fields for numbers, names and the
clock, composite fields replaced by their parts, and every other character for itself. A field that
does not exist is the item `invalid`, which nothing can be written or read with.

Between `%` and the letter of a number field stands at most one sign for the padding.
-/

namespace FormTree

/-- How a number field is filled up to its width. -/
inductive Padding where
  | none | zero | space
deriving DecidableEq

inductive NumberField where
  | year | century | yearOfCentury
  | isoYear | isoYearOfCentury | isoWeek
  | quarter | month | day | ordinal
  | weekFromSunday | weekFromMonday
  | daysFromSunday | daysFromMonday
  | hour | hourOfHalf | minute | second | nanosecond | timestamp
deriving DecidableEq

inductive NameField where
  | shortMonth | longMonth | shortWeekday | longWeekday
deriving DecidableEq

/-- Fields of the clock and the time zone that are not numbers. They can be read past, but a date
has none of them. -/
inductive ClockField where
  | halfDay
  | fraction
  | fractionDigits (count : Nat)
  | zoneName
  | offset (lenient : Bool)
  | instant
deriving DecidableEq

inductive Item where
  | literal (c : Char)
  | blank (c : Char)
  | number (field : NumberField) (padding : Padding)
  | name (field : NameField)
  | clock (field : ClockField)
  | invalid
deriving DecidableEq

namespace Pattern

def ofLetter : Char → List Item
  | 'Y' => [.number .year .zero]
  | 'C' => [.number .century .zero]
  | 'y' => [.number .yearOfCentury .zero]
  | 'G' => [.number .isoYear .zero]
  | 'g' => [.number .isoYearOfCentury .zero]
  | 'V' => [.number .isoWeek .zero]
  | 'q' => [.number .quarter .zero]
  | 'm' => [.number .month .zero]
  | 'd' => [.number .day .zero]
  | 'e' => [.number .day .space]
  | 'j' => [.number .ordinal .zero]
  | 'U' => [.number .weekFromSunday .zero]
  | 'W' => [.number .weekFromMonday .zero]
  | 'w' => [.number .daysFromSunday .zero]
  | 'u' => [.number .daysFromMonday .zero]
  | 'H' => [.number .hour .zero]
  | 'k' => [.number .hour .space]
  | 'I' => [.number .hourOfHalf .zero]
  | 'l' => [.number .hourOfHalf .space]
  | 'M' => [.number .minute .zero]
  | 'S' => [.number .second .zero]
  | 'f' => [.number .nanosecond .zero]
  | 's' => [.number .timestamp .zero]
  | 'b' => [.name .shortMonth]
  | 'h' => [.name .shortMonth]
  | 'B' => [.name .longMonth]
  | 'a' => [.name .shortWeekday]
  | 'A' => [.name .longWeekday]
  | 'p' => [.clock .halfDay]
  | 'P' => [.clock .halfDay]
  | 'Z' => [.clock .zoneName]
  | 'z' => [.clock (.offset false)]
  | '+' => [.clock .instant]
  | 'D' => monthDayYear
  | 'x' => monthDayYear
  | 'F' => [.number .year .zero, .literal '-', .number .month .zero, .literal '-',
      .number .day .zero]
  | 'v' => [.number .day .space, .literal '-', .name .shortMonth, .literal '-',
      .number .year .zero]
  | 'R' => hourMinute
  | 'T' => hourMinuteSecond
  | 'X' => hourMinuteSecond
  | 'r' => [.number .hourOfHalf .zero, .literal ':', .number .minute .zero, .literal ':',
      .number .second .zero, .blank ' ', .clock .halfDay]
  | 'c' => [.name .shortWeekday, .blank ' ', .name .shortMonth, .blank ' ', .number .day .space,
      .blank ' '] ++ hourMinuteSecond ++ [.blank ' ', .number .year .zero]
  | '%' => [.literal '%']
  | 't' => [.blank '\t']
  | 'n' => [.blank '\n']
  | _ => [.invalid]
where
  monthDayYear : List Item := [.number .month .zero, .literal '/', .number .day .zero,
    .literal '/', .number .yearOfCentury .zero]
  hourMinute : List Item := [.number .hour .zero, .literal ':', .number .minute .zero]
  hourMinuteSecond : List Item := hourMinute ++ [.literal ':', .number .second .zero]

/-- Another padding for a field that is a single number; nothing else can be padded. -/
def repad (padding : Padding) : List Item → List Item
  | [.number field _] => [.number field padding]
  | _ => [.invalid]

def items : List Char → List Item
  | '%' :: '-' :: c :: rest => repad .none (ofLetter c) ++ items rest
  | '%' :: '_' :: c :: rest => repad .space (ofLetter c) ++ items rest
  | '%' :: '0' :: c :: rest => repad .zero (ofLetter c) ++ items rest
  | '%' :: '#' :: 'z' :: rest => .clock (.offset true) :: items rest
  | '%' :: ':' :: 'z' :: rest => .clock (.offset false) :: items rest
  | '%' :: ':' :: ':' :: 'z' :: rest => .clock (.offset false) :: items rest
  | '%' :: ':' :: ':' :: ':' :: 'z' :: rest => .clock (.offset false) :: items rest
  | '%' :: '.' :: 'f' :: rest => .clock .fraction :: items rest
  | '%' :: '.' :: '3' :: 'f' :: rest => .clock .fraction :: items rest
  | '%' :: '.' :: '6' :: 'f' :: rest => .clock .fraction :: items rest
  | '%' :: '.' :: '9' :: 'f' :: rest => .clock .fraction :: items rest
  | '%' :: '3' :: 'f' :: rest => .clock (.fractionDigits 3) :: items rest
  | '%' :: '6' :: 'f' :: rest => .clock (.fractionDigits 6) :: items rest
  | '%' :: '9' :: 'f' :: rest => .clock (.fractionDigits 9) :: items rest
  | '%' :: c :: rest => ofLetter c ++ items rest
  | '%' :: [] => [.invalid]
  | c :: rest => (if isBlank c then .blank c else .literal c) :: items rest
  | [] => []

end Pattern

end FormTree
