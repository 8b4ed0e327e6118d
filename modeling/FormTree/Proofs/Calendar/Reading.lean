import FormTree.Proofs.Calendar.Figures
import Mathlib.Data.List.DropRight

/-!
# Written dates read item by item

An item takes from a written date what it has written, and notes the amount that the date has. This
is so for names and literals in any case, whatever follows them, and for a number if no digit
follows that its field would take (`item?_of_written`). So the items of a pattern note the amounts
of the date and leave nothing over (`foldlM_of_delimited`). Whatever is read, an item notes an
amount of one quantity, which depends on the item alone (`item?_adds`).
-/

namespace FormTree

open Numeral

/-- What a number of the calendar says something about. -/
def NumberField.quantity? : NumberField → Option Quantity
  | .year => some .year
  | .century => some .century
  | .yearOfCentury => some .yearOfCentury
  | .isoYear => some .isoYear
  | .isoYearOfCentury => some .isoYearOfCentury
  | .isoWeek => some .isoWeek
  | .quarter => some .quarter
  | .month => some .month
  | .day => some .day
  | .ordinal => some .ordinal
  | .weekFromSunday => some .weekFromSunday
  | .weekFromMonday => some .weekFromMonday
  | .daysFromSunday | .daysFromMonday => some .weekday
  | .hour | .hourOfHalf | .minute | .second | .nanosecond | .timestamp => none

/-- What an item says something about; literals and blanks say nothing. -/
def Item.quantity? : Item → Option Quantity
  | .number field _ => field.quantity?
  | .name .shortMonth | .name .longMonth => some .month
  | .name .shortWeekday | .name .longWeekday => some .weekday
  | _ => none

/-! ### Amounts -/

namespace Amounts

variable {amounts noted : Amounts} {quantity : Quantity} {amount : Int} {date : Date}

/-- Something was read about the quantity. -/
def Mentions (amounts : Amounts) (quantity : Quantity) : Prop :=
  ∃ amount, (quantity, amount) ∈ amounts

/-- All amounts are those of a date. -/
def AreOf (amounts : Amounts) (date : Date) : Prop :=
  ∀ entry ∈ amounts, date.quantity? entry.1 = some entry.2

/-- One amount of a quantity is noted beside what was noted before. -/
def Adds (amounts : Amounts) (quantity : Quantity) (amount : Int) (noted : Amounts) : Prop :=
  ∀ entry, entry ∈ noted ↔ entry ∈ amounts ∨ entry = (quantity, amount)

theorem mem_of_find? (h : find? quantity amounts = some amount) : (quantity, amount) ∈ amounts := by
  obtain ⟨entry, hentry, rfl⟩ := Option.map_eq_some_iff.1 h
  have hquantity : entry.1 = quantity := by simpa using List.find?_some hentry
  rw [← hquantity]
  exact List.mem_of_find?_eq_some hentry

theorem find?_eq_none_iff : find? quantity amounts = none ↔ ¬ amounts.Mentions quantity := by
  rw [find?, Option.map_eq_none_iff, List.find?_eq_none]
  constructor
  · rintro hnone ⟨amount, hmem⟩
    exact hnone _ hmem (by simp)
  · rintro hmentions ⟨other, amount⟩ hmem hother
    obtain rfl : other = quantity := by simpa using hother
    exact hmentions ⟨amount, hmem⟩

theorem adds_of_note? (h : note? quantity amount amounts = some noted) :
    amounts.Adds quantity amount noted := by
  intro entry
  rw [note?] at h
  split at h
  · obtain rfl := Option.some.inj h
    rw [List.mem_cons, or_comm]
  · next known hfind =>
    rw [Option.ite_none_right_eq_some] at h
    obtain ⟨rfl, h⟩ := h
    obtain rfl := Option.some.inj h
    have hmem := mem_of_find? hfind
    exact ⟨.inl, fun hentry => hentry.elim id fun heq => heq ▸ hmem⟩

theorem AreOf.adds (h : amounts.AreOf date) (hamount : date.quantity? quantity = some amount)
    (hadds : amounts.Adds quantity amount noted) : noted.AreOf date := by
  intro entry hentry
  rcases (hadds entry).1 hentry with hold | rfl
  · exact h entry hold
  · exact hamount

theorem AreOf.exists_note? (h : amounts.AreOf date)
    (hamount : date.quantity? quantity = some amount) :
    ∃ noted, note? quantity amount amounts = some noted ∧ noted.AreOf date := by
  have hnoted : ∃ noted, note? quantity amount amounts = some noted := by
    rw [note?]
    split
    · exact ⟨_, rfl⟩
    · next known hfind =>
      have hknown := (h _ (mem_of_find? hfind)).symm.trans hamount
      exact ⟨amounts, if_pos (Option.some.inj hknown)⟩
  obtain ⟨noted, hnoted⟩ := hnoted
  exact ⟨noted, hnoted, h.adds hamount (adds_of_note? hnoted)⟩

theorem Adds.mentions_iff (h : amounts.Adds quantity amount noted) (other : Quantity) :
    noted.Mentions other ↔ amounts.Mentions other ∨ other = quantity := by
  simp only [Mentions, h _, Prod.mk.injEq]
  constructor
  · rintro ⟨a, hmem | ⟨rfl, -⟩⟩
    · exact .inl ⟨a, hmem⟩
    · exact .inr rfl
  · rintro (⟨a, hmem⟩ | rfl)
    · exact ⟨a, .inl hmem⟩
    · exact ⟨amount, .inr ⟨rfl, rfl⟩⟩

end Amounts

/-- Two digits tell the century of a date or its year in a century: there is none before year 0, and
the last century of two digits ends with year 9999. -/
def Date.IsToldBy (date : Date) : Quantity → Prop
  | .century => 0 ≤ date.year ∧ date.year ≤ 9999
  | .yearOfCentury => 0 ≤ date.year
  | .isoYearOfCentury => 0 ≤ date.isoWeek.1
  | _ => True

namespace Reading

variable {amounts noted : Amounts} {field : NumberField} {read : Int} {date : Date}

/-! ### Numbers -/

theorem note?_of_noteWithin? {low high : Int} {quantity : Quantity}
    (h : noteWithin? low high quantity read amounts = some noted) :
    amounts.note? quantity read = some noted := by
  rw [noteWithin?, Option.ite_none_right_eq_some] at h
  exact h.2

theorem adds_of_noteNumber? (hcalendar : field.IsCalendar)
    (h : noteNumber? read amounts field = some noted) :
    ∃ quantity amount, field.quantity? = some quantity ∧ amounts.Adds quantity amount noted ∧
      (quantity ≠ .weekday → amount = read) := by
  have hplain : ∀ {low high : Int} {quantity : Quantity}, field.quantity? = some quantity →
      noteWithin? low high quantity read amounts = some noted →
      ∃ quantity amount, field.quantity? = some quantity ∧ amounts.Adds quantity amount noted ∧
        (quantity ≠ .weekday → amount = read) :=
    fun hquantity hnote => ⟨_, read, hquantity, Amounts.adds_of_note? (note?_of_noteWithin? hnote),
      fun _ => rfl⟩
  cases field
  case daysFromSunday =>
    rw [noteNumber?, Option.ite_none_right_eq_some] at h
    exact ⟨.weekday, _, rfl, Amounts.adds_of_note? h.2, absurd rfl⟩
  case daysFromMonday =>
    exact ⟨.weekday, _, rfl, Amounts.adds_of_note? (note?_of_noteWithin? h), absurd rfl⟩
  case hour => exact hcalendar.elim
  case hourOfHalf => exact hcalendar.elim
  case minute => exact hcalendar.elim
  case second => exact hcalendar.elim
  case nanosecond => exact hcalendar.elim
  case timestamp => exact hcalendar.elim
  all_goals exact hplain rfl h

theorem noteNumber?_amount (hcalendar : field.IsCalendar)
    (htold : ∀ quantity ∈ field.quantity?, date.IsToldBy quantity) (amounts : Amounts) :
    ∃ quantity amount, date.quantity? quantity = some amount ∧
      noteNumber? (date.amount field) amounts field = amounts.note? quantity amount := by
  have hyear := date.year_bounds
  have hisoYear := date.isoYear_bounds
  have hmonth := date.month_bounds
  have hday := date.day_bounds
  have hordinal := date.ordinal_bounds
  have hsunday := date.weekFromSunday_le
  have hmonday := date.weekFromMonday_le
  have hweek := date.isoWeek_bounds
  have hquarter := date.quarter_bounds
  have hweekday := date.weekday_lt
  have hfromSunday : date.daysFromSunday = (date.weekday + 1) % 7 := rfl
  cases field <;> simp only [Date.amount, noteNumber?]
  case year => exact ⟨.year, _, rfl, if_pos ⟨by omega, by omega⟩⟩
  case century =>
    obtain ⟨hpos, hle⟩ := htold .century rfl
    exact ⟨.century, _, if_pos hpos, if_pos ⟨by omega, by omega⟩⟩
  case yearOfCentury =>
    exact ⟨.yearOfCentury, _, if_pos (htold .yearOfCentury rfl), if_pos ⟨by omega, by omega⟩⟩
  case isoYear => exact ⟨.isoYear, _, rfl, if_pos ⟨by omega, by omega⟩⟩
  case isoYearOfCentury =>
    exact ⟨.isoYearOfCentury, _, if_pos (htold .isoYearOfCentury rfl),
      if_pos ⟨by omega, by omega⟩⟩
  case isoWeek => exact ⟨.isoWeek, _, rfl, if_pos ⟨by omega, by omega⟩⟩
  case quarter => exact ⟨.quarter, _, rfl, if_pos ⟨by omega, by omega⟩⟩
  case month => exact ⟨.month, _, rfl, if_pos ⟨by omega, by omega⟩⟩
  case day => exact ⟨.day, _, rfl, if_pos ⟨by omega, by omega⟩⟩
  case ordinal => exact ⟨.ordinal, _, rfl, if_pos ⟨by omega, by omega⟩⟩
  case weekFromSunday => exact ⟨.weekFromSunday, _, rfl, if_pos ⟨by omega, by omega⟩⟩
  case weekFromMonday => exact ⟨.weekFromMonday, _, rfl, if_pos ⟨by omega, by omega⟩⟩
  case daysFromSunday =>
    have hshift : ((date.daysFromSunday : Int) + 6) % 7 = date.weekday := by omega
    exact ⟨.weekday, _, rfl, by rw [← hshift]; exact if_pos (by omega)⟩
  case daysFromMonday =>
    have hshift : (date.weekday : Int) + 1 - 1 = date.weekday := by omega
    exact ⟨.weekday, _, rfl, by rw [hshift]; exact if_pos ⟨by omega, by omega⟩⟩
  all_goals exact hcalendar.elim

/-! ### Names -/

theorem skipWord?_append (word behind : List Char) :
    skipWord? word (word ++ behind) = some behind := by
  simp [skipWord?]

theorem skipWord?_eq_none {word text : List Char}
    (h : lower (text.take word.length) ≠ lower word) : skipWord? word text = none :=
  if_neg fun hword => h hword.1

/-- How a name is written in a field for long or for short names. -/
def spelled (long : Bool) (name : List Char) : List Char := if long then name else name.take 3

/-- Of names that differ in their first three letters, the one that is written is read. -/
theorem nameIn?_spelled {names : List (List Char)} {i : Nat} {name : List Char}
    (hname : names[i]? = some name) (hlong : ∀ name ∈ names, 3 ≤ name.length)
    (hdistinct : (names.map fun name => lower (name.take 3)).Nodup) (long : Bool) (index : Nat)
    (behind : List Char) :
    nameIn? long (spelled long name ++ behind) index names = some (index + i, behind) := by
  have htake : spelled long name = name.take 3 ++ if long then name.drop 3 else [] := by
    cases long <;> simp [spelled]
  induction names generalizing i index with
  | nil => simp at hname
  | cons first rest ih =>
    obtain ⟨hfirst, hrest⟩ := List.forall_mem_cons.1 hlong
    rw [List.map_cons, List.nodup_cons] at hdistinct
    cases i with
    | zero =>
      obtain rfl : first = name := by simpa using hname
      rw [nameIn?, htake, List.append_assoc, skipWord?_append]
      cases long <;> simp [skipWord?_append]
    | succ i =>
      have hmem : name ∈ rest := List.mem_of_getElem? (by simpa using hname)
      have hother : lower ((spelled long name ++ behind).take (first.take 3).length) ≠
          lower (first.take 3) := by
        intro heq
        refine hdistinct.1 (List.mem_map.2 ⟨name, hmem, ?_⟩)
        have hlength : (first.take 3).length = (name.take 3).length := by
          simp [Nat.min_eq_left hfirst, Nat.min_eq_left (hrest name hmem)]
        rw [← heq, hlength, htake, List.append_assoc, List.take_left]
      rw [nameIn?, skipWord?_eq_none hother, ih (by simpa using hname) hrest hdistinct.2,
        Nat.add_assoc, Nat.add_comm 1 i]

theorem exists_monthName (date : Date) :
    Date.monthNames[date.month - 1]? = some date.monthName := by
  have hmonth := date.month_bounds
  have hlt : date.month - 1 < Date.monthNames.length := by
    have hlength : Date.monthNames.length = 12 := rfl
    omega
  rw [Date.monthName, List.getElem?_eq_getElem hlt, Option.getD_some]

theorem exists_weekdayName (date : Date) :
    Date.weekdayNames[date.weekday]? = some date.weekdayName := by
  have hlt : date.weekday < Date.weekdayNames.length := date.weekday_lt
  rw [Date.weekdayName, List.getElem?_eq_getElem hlt, Option.getD_some]

theorem nameField?_name (date : Date) (field : NameField) (amounts : Amounts)
    (behind : List Char) : ∃ quantity amount, date.quantity? quantity = some amount ∧
      nameField? field (amounts, Writing.name date field ++ behind) =
        (amounts.note? quantity amount).map (·, behind) := by
  have hmonth := date.month_bounds
  have hname : ∀ long, nameIn? long (spelled long date.monthName ++ behind) 1 Date.monthNames =
      some (date.month, behind) := by
    intro long
    rw [nameIn?_spelled (exists_monthName date) (by decide) (by decide),
      Nat.add_sub_cancel' hmonth.1]
  have hweekday : ∀ long, nameIn? long (spelled long date.weekdayName ++ behind) 0
      Date.weekdayNames = some (date.weekday, behind) := by
    intro long
    rw [nameIn?_spelled (exists_weekdayName date) (by decide) (by decide), Nat.zero_add]
  cases field with
  | shortMonth => exact ⟨.month, _, rfl, congrArg (Option.bind · _) (hname false)⟩
  | longMonth => exact ⟨.month, _, rfl, congrArg (Option.bind · _) (hname true)⟩
  | shortWeekday => exact ⟨.weekday, _, rfl, congrArg (Option.bind · _) (hweekday false)⟩
  | longWeekday => exact ⟨.weekday, _, rfl, congrArg (Option.bind · _) (hweekday true)⟩

theorem exists_name_eq_cons (date : Date) (field : NameField) :
    ∃ c rest, Writing.name date field = c :: rest ∧ isBlank c = false ∧ c.isDigit = false := by
  have hletters : ∀ name ∈ Date.monthNames ++ Date.weekdayNames,
      name.head?.map (fun c => isBlank c || c.isDigit) = some false := by decide
  have hstart : ∀ name ∈ Date.monthNames ++ Date.weekdayNames, ∀ long,
      ∃ c rest, spelled long name = c :: rest ∧ isBlank c = false ∧ c.isDigit = false := by
    intro name hname long
    have hletter := hletters name hname
    cases name with
    | nil => nomatch hletter
    | cons c rest =>
      have hc : isBlank c = false ∧ c.isDigit = false := by simpa using hletter
      cases long with
      | false => exact ⟨c, rest.take 2, rfl, hc⟩
      | true => exact ⟨c, rest, rfl, hc⟩
  have hmonth := hstart _
    (List.mem_append_left _ (List.mem_of_getElem? (exists_monthName date)))
  have hweekday := hstart _
    (List.mem_append_right _ (List.mem_of_getElem? (exists_weekdayName date)))
  cases field with
  | shortMonth => exact hmonth false
  | longMonth => exact hmonth true
  | shortWeekday => exact hweekday false
  | longWeekday => exact hweekday true

theorem trimStart_name (date : Date) (field : NameField) (behind : List Char) :
    trimStart (Writing.name date field ++ behind) = Writing.name date field ++ behind := by
  obtain ⟨c, rest, hname, hblank, -⟩ := exists_name_eq_cons date field
  rw [hname]
  exact trimStart_of_not_isBlank _ hblank

/-! ### Items -/

/-- A text, or the text without the blanks before it. -/
def UpToBlanks (left text : List Char) : Prop := left = text ∨ left = trimStart text

theorem UpToBlanks.trimStart_eq {left text : List Char} (h : UpToBlanks left text) :
    trimStart left = trimStart text := by
  rcases h with rfl | rfl
  · rfl
  · exact List.dropWhile_idempotent isBlank text

theorem UpToBlanks.eq_of_trimStart {left text : List Char} (h : UpToBlanks left text)
    (htext : trimStart text = text) : left = text := by
  rcases h with rfl | rfl
  · rfl
  · exact htext

end Reading

/-- Blanks of a pattern are blanks, and its literals are not. -/
def Item.IsProper : Item → Prop
  | .literal c => isBlank c = false
  | .blank c => isBlank c = true
  | _ => True

instance decidableIsProper : (item : Item) → Decidable item.IsProper
  | .literal c => inferInstanceAs (Decidable (isBlank c = false))
  | .blank c => inferInstanceAs (Decidable (isBlank c = true))
  | .number _ _ | .name _ | .clock _ | .invalid => isTrue trivial

namespace Pattern

theorem isProper_ofLetter (c : Char) : ∀ item ∈ ofLetter c, item.IsProper := by
  unfold ofLetter
  split <;> decide

theorem isProper_repad (padding : Padding) (items : List Item) :
    ∀ item ∈ repad padding items, item.IsProper := by
  unfold repad
  split <;> simp [Item.IsProper]

theorem isProper_character (c : Char) :
    (if isBlank c then Item.blank c else Item.literal c).IsProper := by
  split
  · next hblank => exact hblank
  · next hblank => exact Bool.eq_false_iff.2 hblank

theorem isProper_items (pattern : List Char) : ∀ item ∈ items pattern, item.IsProper := by
  fun_induction items pattern
  case case1 ih | case2 ih | case3 ih =>
    exact List.forall_mem_append.2 ⟨isProper_repad _ _, ih⟩
  case case15 ih => exact List.forall_mem_append.2 ⟨isProper_ofLetter _, ih⟩
  case case16 => exact List.forall_mem_singleton.2 trivial
  case case17 ih => exact List.forall_mem_cons.2 ⟨isProper_character _, ih⟩
  case case18 => exact List.forall_mem_nil _
  all_goals exact List.forall_mem_cons.2 ⟨trivial, by assumption⟩

end Pattern

namespace Reading

variable {amounts noted : Amounts} {date : Date} {item : Item} {text left behind : List Char}

/-- An item takes from a written date what it has written, and notes an amount of the date. Only
blanks that follow are taken as well, and digits if a number runs on. -/
theorem item?_of_written (hwritten : Writing.item? date item = some text) (hproper : item.IsProper)
    (htold : ∀ quantity ∈ item.quantity?, date.IsToldBy quantity)
    (hends : ∀ field padding, item = .number field padding →
      Writing.RunsOn field (trimStart text) → EndsBefore behind)
    (hamounts : amounts.AreOf date) (hleft : UpToBlanks left (text ++ behind)) :
    ∃ noted after, item? (amounts, left) item = some (noted, after) ∧ noted.AreOf date ∧
      UpToBlanks after behind := by
  cases item with
  | literal c =>
    obtain rfl : [c] = text := Option.some.inj hwritten
    obtain rfl := hleft.eq_of_trimStart (trimStart_of_not_isBlank behind hproper)
    exact ⟨amounts, behind, by simp [item?, plain?], hamounts, .inl rfl⟩
  | blank c =>
    obtain rfl : [c] = text := Option.some.inj hwritten
    have hblank : trimStart ([c] ++ behind) = trimStart behind :=
      List.dropWhile_cons_of_pos hproper
    refine ⟨amounts, trimStart left, rfl, hamounts, .inr ?_⟩
    rw [hleft.trimStart_eq, hblank]
  | number field padding =>
    have hcalendar := Writing.isCalendar_of_number? hwritten
    have hholds := (Writing.number_of_number? hwritten).holds fun hcentury => by
      subst hcentury
      exact htold .century rfl
    obtain ⟨figure, hfigure, htrim⟩ := hholds.exists_figure
    have hruns : Writing.RunsOn field figure → EndsBefore behind := by
      have htext := htrim []
      rw [List.append_nil, List.append_nil] at htext
      exact htext ▸ hends field padding rfl
    obtain ⟨quantity, amount, hamount, hnote⟩ := noteNumber?_amount hcalendar htold amounts
    obtain ⟨noted, hnoted, hare⟩ := hamounts.exists_note? hamount
    have hread := numberField?_eq hcalendar amounts left
    rw [hleft.trimStart_eq, htrim, amount?_of_endsBefore hfigure hruns, Option.bind_some, hnote,
      hnoted, Option.map_some] at hread
    exact ⟨noted, behind, hread, hare, .inl rfl⟩
  | name field =>
    obtain rfl : Writing.name date field = text := Option.some.inj hwritten
    obtain rfl := hleft.eq_of_trimStart (trimStart_name date field behind)
    obtain ⟨quantity, amount, hamount, hread⟩ := nameField?_name date field amounts behind
    obtain ⟨noted, hnoted, hare⟩ := hamounts.exists_note? hamount
    exact ⟨noted, behind, hread.trans (by rw [hnoted, Option.map_some]), hare, .inl rfl⟩
  | clock field => simp [Writing.item?] at hwritten
  | invalid => simp [Writing.item?] at hwritten

theorem nameField?_adds {field : NameField}
    (h : nameField? field (amounts, left) = some (noted, behind)) :
    ∃ quantity amount, (Item.name field).quantity? = some quantity ∧
      amounts.Adds quantity amount noted := by
  have hadds : ∀ {long index names quantity},
      ((nameIn? long left index names).bind fun read =>
        (amounts.note? quantity read.1).map (·, read.2)) = some (noted, behind) →
      ∃ amount, amounts.Adds quantity amount noted := by
    intro long index names quantity hread
    obtain ⟨⟨n, rest⟩, -, hnote⟩ := Option.bind_eq_some_iff.1 hread
    obtain ⟨_, hnoted, heq⟩ := Option.map_eq_some_iff.1 hnote
    obtain ⟨rfl, rfl⟩ := Prod.mk.inj heq
    exact ⟨_, Amounts.adds_of_note? hnoted⟩
  cases field <;> obtain ⟨amount, hamount⟩ := hadds h <;> exact ⟨_, amount, rfl, hamount⟩

/-- Whatever an item that dates can be written with reads, it notes an amount of its quantity. -/
theorem item?_adds (hwritable : item.IsWritable)
    (h : item? (amounts, left) item = some (noted, behind)) :
    item.quantity? = none ∧ noted = amounts ∨
      ∃ quantity amount, item.quantity? = some quantity ∧ amounts.Adds quantity amount noted := by
  cases item with
  | literal c =>
    cases left with
    | nil => nomatch h
    | cons d rest =>
      simp only [item?, plain?, Option.ite_none_right_eq_some, Option.some.injEq] at h
      exact .inl ⟨rfl, (Prod.mk.inj h.2).1.symm⟩
  | blank c => exact .inl ⟨rfl, (Prod.mk.inj (Option.some.inj h)).1.symm⟩
  | number field padding =>
    obtain ⟨⟨read, rest⟩, -, hnote⟩ :=
      Option.bind_eq_some_iff.1 ((numberField?_eq hwritable amounts left).symm.trans h)
    obtain ⟨_, hnoted, heq⟩ := Option.map_eq_some_iff.1 hnote
    obtain ⟨rfl, rfl⟩ := Prod.mk.inj heq
    obtain ⟨quantity, amount, hquantity, hadds, -⟩ := adds_of_noteNumber? hwritable hnoted
    exact .inr ⟨quantity, amount, hquantity, hadds⟩
  | name field => exact .inr (nameField?_adds h)
  | clock field => exact hwritable.elim
  | invalid => exact hwritable.elim

/-! ### Patterns -/

variable {items : List Item}

theorem foldlM_mentions (hwritable : ∀ item ∈ items, item.IsWritable)
    (h : items.foldlM item? (amounts, left) = some (noted, behind)) :
    amounts ⊆ noted ∧ ∀ quantity, noted.Mentions quantity ↔
      amounts.Mentions quantity ∨ ∃ item ∈ items, item.quantity? = some quantity := by
  induction items generalizing amounts left with
  | nil =>
    obtain ⟨rfl, rfl⟩ := Prod.mk.inj (Option.some.inj h)
    simp
  | cons item rest ih =>
    obtain ⟨hitem, hrest⟩ := List.forall_mem_cons.1 hwritable
    rw [List.foldlM_cons] at h
    obtain ⟨⟨after, left'⟩, hfirst, hlast⟩ := Option.bind_eq_some_iff.1 h
    obtain ⟨hsubset, hmentions⟩ := ih hrest hlast
    obtain ⟨hnone, rfl⟩ | ⟨quantity, amount, hquantity, hadds⟩ := item?_adds hitem hfirst
    · refine ⟨hsubset, fun other => (hmentions other).trans ?_⟩
      simp [hnone]
    · refine ⟨fun entry hentry => hsubset ((hadds entry).2 (.inl hentry)), fun other => ?_⟩
      rw [hmentions other, hadds.mentions_iff other]
      simp [hquantity, or_assoc, eq_comm]

end Reading

/-- At a date, no number of the items that would be read on has a digit behind it. -/
def Writing.Delimited (date : Date) (items : List Item) : Prop :=
  ∀ field padding after text behind, .number field padding :: after <:+ items →
    number? date field padding = some text → items? date after = some behind →
    RunsOn field (trimStart text) → EndsBefore behind

namespace Reading

theorem items?_cons_eq_some {item : Item} {items : List Item} {date : Date} {text : List Char} :
    Writing.items? date (item :: items) = some text ↔ ∃ own behind,
      Writing.item? date item = some own ∧ Writing.items? date items = some behind ∧
        own ++ behind = text := by
  rw [Writing.items?]
  simp [Option.bind_eq_some_iff]

/-- What the items have written for a date is read by them to its end, and all amounts that they
note are amounts of the date. -/
theorem foldlM_of_delimited {amounts : Amounts} {date : Date} {items : List Item}
    {text left : List Char} (hwritten : Writing.items? date items = some text)
    (hproper : ∀ item ∈ items, item.IsProper)
    (htold : ∀ item ∈ items, ∀ quantity ∈ item.quantity?, date.IsToldBy quantity)
    (hdelimited : Writing.Delimited date items) (hamounts : amounts.AreOf date)
    (hleft : UpToBlanks left text) :
    ∃ noted, items.foldlM item? (amounts, left) = some (noted, []) ∧ noted.AreOf date := by
  induction items generalizing amounts text left with
  | nil =>
    obtain rfl := Option.some.inj hwritten
    obtain rfl : left = [] := hleft.elim id id
    exact ⟨amounts, rfl, hamounts⟩
  | cons item rest ih =>
    obtain ⟨hitem, hrest⟩ := List.forall_mem_cons.1 hproper
    obtain ⟨htoldItem, htoldRest⟩ := List.forall_mem_cons.1 htold
    obtain ⟨own, behind, hown, hbehind, rfl⟩ := items?_cons_eq_some.1 hwritten
    have hends : ∀ field padding, item = .number field padding →
        Writing.RunsOn field (trimStart own) → EndsBefore behind := by
      rintro field padding rfl
      exact hdelimited field padding rest own behind List.suffix_rfl hown hbehind
    obtain ⟨noted, after, hread, hnoted, hafter⟩ :=
      item?_of_written hown hitem htoldItem hends hamounts hleft
    obtain ⟨last, hlast, hare⟩ := ih hbehind hrest htoldRest
      (fun field padding below own' behind' hsuffix =>
        hdelimited field padding below own' behind' (hsuffix.trans (List.suffix_cons item rest)))
      hnoted hafter
    refine ⟨last, ?_, hare⟩
    rw [List.foldlM_cons, hread]
    exact hlast

end Reading

end FormTree
