import FormTree.Widget

/-!
# Patterns that dates can be written with

A date is written with a pattern if the pattern is not empty and a date has a text for each of its
items (`isSome_format?_iff`), which no property of the date decides. So a pattern that the sample
date is written with suits all dates, and a stored date is always shown with the display pattern of
valid settings (`stored_dates_are_shown_formatted`).
-/

namespace FormTree

/-- A number of the calendar, and not of the clock. -/
def NumberField.IsCalendar : NumberField → Prop
  | .hour | .hourOfHalf | .minute | .second | .nanosecond | .timestamp => False
  | _ => True

/-- An item that a date has a text for. -/
def Item.IsWritable : Item → Prop
  | .number field _ => field.IsCalendar
  | .clock _ => False
  | .invalid => False
  | _ => True

namespace Writing

variable {date : Date}

theorem isSome_number?_iff (date : Date) (field : NumberField) (padding : Padding) :
    (number? date field padding).isSome ↔ field.IsCalendar := by
  cases field <;> simp [number?, NumberField.IsCalendar]

theorem isCalendar_of_number? {field : NumberField} {padding : Padding} {text : List Char}
    (h : number? date field padding = some text) : field.IsCalendar :=
  (isSome_number?_iff date field padding).1 (Option.isSome_iff_exists.2 ⟨text, h⟩)

theorem isSome_item?_iff (date : Date) (item : Item) :
    (item? date item).isSome ↔ item.IsWritable := by
  cases item with
  | number field padding => exact isSome_number?_iff date field padding
  | _ => simp [item?, Item.IsWritable]

theorem isSome_items?_iff (date : Date) (items : List Item) :
    (items? date items).isSome ↔ ∀ item ∈ items, item.IsWritable := by
  induction items with
  | nil => simp [items?]
  | cons item rest ih =>
    rw [List.forall_mem_cons, ← ih, ← isSome_item?_iff date item, items?]
    cases item? date item <;> simp

theorem isWritable_of_items? {items : List Item} {text : List Char}
    (h : items? date items = some text) : ∀ item ∈ items, item.IsWritable :=
  (isSome_items?_iff date items).1 (Option.isSome_iff_exists.2 ⟨text, h⟩)

theorem exists_items? (date : Date) {items : List Item} (h : ∀ item ∈ items, item.IsWritable) :
    ∃ text, items? date items = some text :=
  Option.isSome_iff_exists.1 ((isSome_items?_iff date items).2 h)

end Writing

theorem Date.isSome_format?_iff (date : Date) (pattern : String) :
    (date.format? pattern).isSome ↔
      pattern ≠ "" ∧ ∀ item ∈ Pattern.items pattern.toList, item.IsWritable := by
  rw [Date.format?, ← Writing.isSome_items?_iff date]
  split <;> simp_all

namespace Settings

variable {settings : Settings}

theorem validate_eq_ok_iff : settings.validate = .ok settings ↔
    (Date.sample.format? settings.dateDisplay).isSome = true ∧
      readsBack settings.dateStorage = true := by
  rw [validate, fault?]
  cases Date.sample.format? settings.dateDisplay <;>
    cases readsBack settings.dateStorage <;> simp

end Settings

/-- Whether a pattern suits a date does not depend on the date. So in settings that are valid, a
stored text which is a date is never shown as it is, but as the display pattern has it. -/
theorem stored_dates_are_shown_formatted :
    (∀ (pattern : String) (first second : Date),
      first.format? pattern = none ↔ second.format? pattern = none) ∧
      ∀ (settings : Settings) (text : String) (date : Date), settings.validate = .ok settings →
        Date.parse? settings.dateStorage text = some date →
        ∃ shown, date.format? settings.dateDisplay = some shown ∧
          display (.str text) .date true settings = shown := by
  have hsame : ∀ (pattern : String) (first second : Date),
      (first.format? pattern).isSome ↔ (second.format? pattern).isSome := by
    intro pattern first second
    rw [Date.isSome_format?_iff, Date.isSome_format?_iff]
  constructor
  · intro pattern first second
    rw [← Option.not_isSome_iff_eq_none, ← Option.not_isSome_iff_eq_none,
      hsame pattern first second]
  · intro settings text date hvalid hread
    have hsample := (Settings.validate_eq_ok_iff.1 hvalid).1
    obtain ⟨shown, hshown⟩ :=
      Option.isSome_iff_exists.1 ((hsame settings.dateDisplay .sample date).1 hsample)
    refine ⟨shown, hshown, ?_⟩
    simp [display, displayDate, hread, hshown]

/-- A date before year 0 is shown in the standard settings. -/
theorem early_date_is_shown_formatted :
    Settings.standard.validate = .ok Settings.standard ∧
      ∃ date, Date.parse? "%Y-%m-%d" "-0044-03-15" = some date ∧
        ∃ shown, date.format? "%m/%d/%Y" = some shown ∧
          display (.str "-0044-03-15") .date true .standard = shown := by
  have hvalid : Settings.standard.validate = .ok Settings.standard :=
    Settings.validate_eq_ok_iff.2 (by decide +kernel)
  have hread : Date.parse? "%Y-%m-%d" "-0044-03-15" = some ⟨-44, 3, 15, by decide⟩ := by
    decide +kernel
  exact ⟨hvalid, _, hread, stored_dates_are_shown_formatted.2 .standard _ _ hvalid hread⟩

end FormTree
