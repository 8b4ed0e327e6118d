import FormTree.Calendar.Date
import FormTree.Calendar.Pattern

/-!
# Writing a date

A date is written item by item. Whether that succeeds depends on the pattern alone: the fields of
the clock and the items that do not exist have no text for any date. The empty pattern is refused as
well.
-/

namespace FormTree

namespace Date

def monthNames : List (List Char) :=
  ["January", "February", "March", "April", "May", "June", "July", "August", "September",
    "October", "November", "December"].map String.toList

/-- Monday first. -/
def weekdayNames : List (List Char) :=
  ["Monday", "Tuesday", "Wednesday", "Thursday", "Friday", "Saturday", "Sunday"].map String.toList

def monthName (date : Date) : List Char := (monthNames[date.month - 1]?).getD []

def weekdayName (date : Date) : List Char := (weekdayNames[date.weekday]?).getD []

end Date

namespace Writing

def digitChar (n : Nat) : Char := Char.ofNat (48 + n)

/-- Two digits. The first one is left out or a space if it is zero and the padding says so; past
ninety-nine it runs on through the characters after `9`. -/
def twoDigits (padding : Padding) (n : Nat) : List Char :=
  let ones := [digitChar (n % 10)]
  if n / 10 = 0 then
    match padding with
    | .none => ones
    | .space => ' ' :: ones
    | .zero => '0' :: ones
  else digitChar (n / 10) :: ones

def digits (n : Nat) : List Char := (toString n).toList

def threeDigits (padding : Padding) (n : Nat) : List Char :=
  let text := digits n
  match padding with
  | .none => text
  | .space => List.replicate (3 - text.length) ' ' ++ text
  | .zero => List.replicate (3 - text.length) '0' ++ text

/-- A year: four digits, and a sign if the year is negative or has more. -/
def year (padding : Padding) (n : Int) : List Char :=
  let text := digits n.natAbs
  let signed := n < 0 ∨ 9999 < n
  let sign := if signed then [if n < 0 then '-' else '+'] else []
  let missing := 4 - text.length
  match padding with
  | .none => sign ++ text
  | .space => List.replicate missing ' ' ++ sign ++ text
  | .zero => sign ++ List.replicate missing '0' ++ text

/-- The text of a number field; the clock has none. -/
def number? (date : Date) (field : NumberField) (padding : Padding) : Option (List Char) :=
  match field with
  | .year => some (year padding date.year)
  | .century => some (twoDigits padding (date.year / 100 % 256).toNat)
  | .yearOfCentury => some (twoDigits padding (date.year % 100).toNat)
  | .isoYear => some (year padding date.isoWeek.1)
  | .isoYearOfCentury => some (twoDigits padding (date.isoWeek.1 % 100).toNat)
  | .isoWeek => some (twoDigits padding date.isoWeek.2)
  | .quarter => some [digitChar date.quarter]
  | .month => some (twoDigits padding date.month)
  | .day => some (twoDigits padding date.day)
  | .ordinal => some (threeDigits padding date.ordinal)
  | .weekFromSunday => some (twoDigits padding date.weekFromSunday)
  | .weekFromMonday => some (twoDigits padding date.weekFromMonday)
  | .daysFromSunday => some [digitChar date.daysFromSunday]
  | .daysFromMonday => some [digitChar (date.weekday + 1)]
  | .hour | .hourOfHalf | .minute | .second | .nanosecond | .timestamp => none

def name (date : Date) : NameField → List Char
  | .shortMonth => date.monthName.take 3
  | .longMonth => date.monthName
  | .shortWeekday => date.weekdayName.take 3
  | .longWeekday => date.weekdayName

def item? (date : Date) : Item → Option (List Char)
  | .literal c => some [c]
  | .blank c => some [c]
  | .number field padding => number? date field padding
  | .name field => some (name date field)
  | .clock _ => none
  | .invalid => none

def items? (date : Date) : List Item → Option (List Char)
  | [] => some []
  | item :: rest => (item? date item).bind fun text => (items? date rest).map (text ++ ·)

end Writing

/-- The date written with a pattern, or nothing if the pattern cannot be applied to dates. -/
def Date.format? (date : Date) (pattern : String) : Option String :=
  if pattern.isEmpty then none
  else (Writing.items? date (Pattern.items pattern.toList)).map String.ofList

end FormTree
