import FormTree.Proofs.Calendar.Overrun
import FormTree.Proofs.Calendar.Resolution

/-!
# Stored dates read back

Settings are valid if the storage pattern reads back the sample date. It then tells enough
quantities for any other date, but that alone does not bring every date back: a year that is told by
two digits can be taken for another one, and a number behind which a digit stands can run into it.
Where neither happens, the date is read back. A pattern reads back all dates exactly if neither
happens for any date (`stored_dates_are_read_back_iff`), as with numbers that are separated and
years that are told in full (`Date.IsReadBack.of_separated`).
-/

namespace FormTree

open Numeral

/-- Some item says something about the quantity. -/
def Pattern.Tells (items : List Item) (quantity : Quantity) : Prop :=
  ∃ item ∈ items, item.quantity? = some quantity

/-- The items tell the years of a date as they are. Centuries and places in a century have two
digits, and a place without anything else about the year stands for a year from 1970 to 2069. -/
structure Pattern.TellsYears (items : List Item) (date : Date) : Prop where
  isToldBy : ∀ quantity, Tells items quantity → date.IsToldBy quantity
  year : Tells items .yearOfCentury → ¬ Tells items .year → ¬ Tells items .century →
    1970 ≤ date.year ∧ date.year ≤ 2069
  isoYear : Tells items .isoYearOfCentury → ¬ Tells items .isoYear →
    1970 ≤ date.isoWeek.1 ∧ date.isoWeek.1 ≤ 2069

instance decidableTells (items : List Item) (quantity : Quantity) :
    Decidable (Pattern.Tells items quantity) :=
  inferInstanceAs (Decidable (∃ item ∈ items, item.quantity? = some quantity))

theorem Pattern.tellsYears_of_full {items : List Item} (hcentury : ¬ Tells items .century)
    (hplace : ¬ Tells items .yearOfCentury) (hisoPlace : ¬ Tells items .isoYearOfCentury)
    (date : Date) : TellsYears items date := by
  refine ⟨fun quantity htells => ?_, fun htells => absurd htells hplace,
    fun htells => absurd htells hisoPlace⟩
  cases quantity with
  | century => exact absurd htells hcentury
  | yearOfCentury => exact absurd htells hplace
  | isoYearOfCentury => exact absurd htells hisoPlace
  | _ => exact trivial

/-- What the pattern writes for the date is read as the date. -/
def Date.IsReadBack (date : Date) (pattern : String) : Prop :=
  (date.format? pattern).bind (Date.parse? pattern) = some date

variable {pattern : String} {date : Date} {items : List Item} {amounts : Amounts}

theorem Date.isReadBack_iff : date.IsReadBack pattern ↔
    pattern ≠ "" ∧ ∃ text amounts, Writing.items? date (Pattern.items pattern.toList) = some text ∧
      (Pattern.items pattern.toList).foldlM Reading.item? ([], text) = some (amounts, []) ∧
      amounts.date? = some date := by
  rw [IsReadBack, format?]
  by_cases hpattern : pattern = ""
  · simp [hpattern]
  · rw [if_neg (by simpa using hpattern)]
    cases hwritten : Writing.items? date (Pattern.items pattern.toList) with
    | none => simp
    | some text =>
      simp only [Option.map_some, Option.bind_some, Date.parse?, Reading.amounts?,
        String.toList_ofList, Option.bind_eq_some_iff]
      constructor
      · rintro ⟨amounts, ⟨⟨noted, rest⟩, hread, hrest⟩, hdate⟩
        rw [Option.ite_none_right_eq_some, List.isEmpty_iff] at hrest
        obtain ⟨rfl, hrest⟩ := hrest
        obtain rfl := Option.some.inj hrest
        exact ⟨hpattern, text, noted, rfl, hread, hdate⟩
      · rintro ⟨-, text', amounts, hsame, hread, hdate⟩
        obtain rfl := Option.some.inj hsame
        exact ⟨amounts, ⟨_, hread, rfl⟩, hdate⟩

theorem Date.isReadBack_sample_iff :
    Date.sample.IsReadBack pattern ↔ Settings.readsBack pattern = true := by
  rw [IsReadBack, Settings.readsBack]
  cases Date.sample.format? pattern <;> simp

/-! ### Patterns that have read back a date -/

theorem Date.IsReadBack.isWritable (h : date.IsReadBack pattern) :
    pattern ≠ "" ∧ ∀ item ∈ Pattern.items pattern.toList, item.IsWritable := by
  obtain ⟨hpattern, text, -, hwritten, -, -⟩ := isReadBack_iff.1 h
  exact ⟨hpattern, Writing.isWritable_of_items? hwritten⟩

theorem mentions_iff_tells (hwritable : ∀ item ∈ items, item.IsWritable) {left rest : List Char}
    (h : items.foldlM Reading.item? ([], left) = some (amounts, rest)) (quantity : Quantity) :
    amounts.Mentions quantity ↔ Pattern.Tells items quantity := by
  rw [(Reading.foldlM_mentions hwritable h).2 quantity, Pattern.Tells]
  simp [Amounts.Mentions]

/-- A pattern that reads back a date tells enough to determine any date. -/
theorem Date.IsReadBack.suffice (h : date.IsReadBack pattern) :
    Amounts.Suffice (Pattern.Tells (Pattern.items pattern.toList)) := by
  obtain ⟨-, text, amounts, -, hread, hdate⟩ := isReadBack_iff.1 h
  have hsame : amounts.Mentions = Pattern.Tells (Pattern.items pattern.toList) :=
    funext fun quantity => propext (mentions_iff_tells h.isWritable.2 hread quantity)
  exact hsame ▸ Amounts.suffice_of_date? hdate

theorem Date.IsReadBack.of_delimited {other : Date} (h : other.IsReadBack pattern)
    (hyears : Pattern.TellsYears (Pattern.items pattern.toList) date)
    (hdelimited : Writing.Delimited date (Pattern.items pattern.toList)) :
    date.IsReadBack pattern := by
  obtain ⟨hpattern, hwritable⟩ := h.isWritable
  obtain ⟨text, hwritten⟩ := Writing.exists_items? date hwritable
  obtain ⟨amounts, hread, hare⟩ := Reading.foldlM_of_delimited hwritten
    (Pattern.isProper_items pattern.toList)
    (fun item hitem quantity hquantity => hyears.isToldBy quantity ⟨item, hitem, hquantity⟩)
    hdelimited (List.forall_mem_nil _) (.inl rfl)
  have hmentions := mentions_iff_tells hwritable hread
  refine isReadBack_iff.2 ⟨hpattern, text, amounts, hwritten, hread, ?_⟩
  refine Amounts.date?_of_suffice hare ?_ ?_ ?_
  · rw [funext fun quantity => propext (hmentions quantity)]
    exact h.suffice
  · simpa only [hmentions] using hyears.year
  · simpa only [hmentions] using hyears.isoYear

/-- Numbers that are separated and years that are told in full bring all dates back. -/
theorem Date.IsReadBack.of_separated {other : Date} (h : other.IsReadBack pattern)
    (hcentury : ¬ Pattern.Tells (Pattern.items pattern.toList) .century)
    (hplace : ¬ Pattern.Tells (Pattern.items pattern.toList) .yearOfCentury)
    (hisoPlace : ¬ Pattern.Tells (Pattern.items pattern.toList) .isoYearOfCentury)
    (hseparated : Pattern.separated (Pattern.items pattern.toList) = true) (date : Date) :
    date.IsReadBack pattern :=
  h.of_delimited (Pattern.tellsYears_of_full hcentury hplace hisoPlace date)
    (Writing.delimited_of_separated hseparated (Pattern.isProper_items pattern.toList))

/-! ### Patterns that read back all dates -/

theorem Item.isClock_eq_false {item : Item} {quantity : Quantity}
    (h : item.quantity? = some quantity) : quantity.isClock = false := by
  cases item with
  | number field padding =>
    cases field <;> simp only [Item.quantity?, NumberField.quantity?, Option.some.injEq,
      reduceCtorEq] at h <;> subst h <;> rfl
  | name field => cases field <;> obtain rfl := Option.some.inj h <;> rfl
  | _ => simp [Item.quantity?] at h

theorem Date.IsReadBack.exists_amounts (h : date.IsReadBack pattern) :
    ∃ text amounts, Writing.items? date (Pattern.items pattern.toList) = some text ∧
      (Pattern.items pattern.toList).foldlM Reading.item? ([], text) = some (amounts, []) ∧
      amounts.AreOf date := by
  obtain ⟨-, text, amounts, hwritten, hread, hdate⟩ := isReadBack_iff.1 h
  refine ⟨text, amounts, hwritten, hread, Amounts.areOf_of_date? hdate fun quantity hmentions => ?_⟩
  obtain ⟨item, -, hitem⟩ := (mentions_iff_tells h.isWritable.2 hread quantity).1 hmentions
  exact Item.isClock_eq_false hitem

theorem Date.IsReadBack.isSome_quantity? (h : date.IsReadBack pattern) {quantity : Quantity}
    (htells : Pattern.Tells (Pattern.items pattern.toList) quantity) :
    (date.quantity? quantity).isSome := by
  obtain ⟨text, amounts, -, hread, hare⟩ := h.exists_amounts
  obtain ⟨amount, hmem⟩ := (mentions_iff_tells h.isWritable.2 hread quantity).2 htells
  exact Option.isSome_iff_exists.2 ⟨amount, hare _ hmem⟩

/-- Years before year 0 have no century, so a pattern that reads back all dates tells years in
full. -/
theorem tellsYears_of_isReadBack (h : ∀ date : Date, date.IsReadBack pattern) (date : Date) :
    Pattern.TellsYears (Pattern.items pattern.toList) date := by
  have huntold : ∀ quantity, (Date.quantity? ⟨-5, 6, 15, by decide⟩ quantity).isSome = false →
      ¬ Pattern.Tells (Pattern.items pattern.toList) quantity := by
    intro quantity hnone htells
    rw [(h _).isSome_quantity? htells] at hnone
    nomatch hnone
  exact Pattern.tellsYears_of_full (huntold .century (by decide))
    (huntold .yearOfCentury (by decide)) (huntold .isoYearOfCentury (by decide)) date

/-- In a pattern that reads back all dates no number is read on. One that is read past zeros at a
date is read past other digits at `early`. -/
theorem delimited_of_isReadBack (h : ∀ date : Date, date.IsReadBack pattern) (date : Date) :
    Writing.Delimited date (Pattern.items pattern.toList) := by
  have hproper := Pattern.isProper_items pattern.toList
  have hoverrun : ∀ date : Date, ¬ Writing.Delimited date (Pattern.items pattern.toList) →
      Writing.ZeroOverrun date (Pattern.items pattern.toList) := by
    intro date hdelimited
    obtain ⟨text, amounts, hwritten, hread, hare⟩ := (h date).exists_amounts
    have htold := (tellsYears_of_isReadBack h date).isToldBy
    exact Reading.zeroOverrun_of_not_delimited hwritten hproper
      (fun item hitem quantity hquantity => htold quantity ⟨item, hitem, hquantity⟩) (.inl rfl)
      hread hare hdelimited
  by_contra hdelimited
  obtain ⟨field, padding, after, text, behind, -, hwritten, -, -, hzero, -⟩ :=
    hoverrun .early ((hoverrun date hdelimited).not_delimited_early hproper)
  exact Date.amount_early_ne_zero (Writing.isCalendar_of_number? hwritten) hzero

/-! ### Storage patterns -/

/-- The storage pattern of valid settings brings back every date of which it tells the years as they
are and no number is read on, and it brings back all dates exactly if that holds for all. -/
theorem stored_dates_are_read_back_iff {settings : Settings}
    (h : settings.validate = .ok settings) :
    (∀ date, Pattern.TellsYears (Pattern.items settings.dateStorage.toList) date →
      Writing.Delimited date (Pattern.items settings.dateStorage.toList) →
      date.IsReadBack settings.dateStorage) ∧
      ((∀ date : Date, date.IsReadBack settings.dateStorage) ↔
        ∀ date, Pattern.TellsYears (Pattern.items settings.dateStorage.toList) date ∧
          Writing.Delimited date (Pattern.items settings.dateStorage.toList)) := by
  have hsample := Date.isReadBack_sample_iff.2 (Settings.validate_eq_ok_iff.1 h).2
  refine ⟨fun date => hsample.of_delimited, ?_, ?_⟩
  · intro hall date
    exact ⟨tellsYears_of_isReadBack hall date, delimited_of_isReadBack hall date⟩
  · intro hall date
    exact hsample.of_delimited (hall date).1 (hall date).2

/-- The standard settings bring back all dates. -/
theorem standard_settings_read_back_all_dates :
    Settings.standard.validate = .ok Settings.standard ∧
      ∀ date : Date, date.IsReadBack Settings.standard.dateStorage := by
  have hvalid : Settings.standard.validate = .ok Settings.standard :=
    Settings.validate_eq_ok_iff.2 (by decide +kernel)
  refine ⟨hvalid, (stored_dates_are_read_back_iff hvalid).2.2 fun date => ⟨?_, ?_⟩⟩
  · exact Pattern.tellsYears_of_full (by decide +kernel) (by decide +kernel) (by decide +kernel)
      date
  · exact Writing.delimited_of_separated (by decide +kernel) (Pattern.isProper_items _)

/-- Settings that are valid, though the year 2070 comes back as 1970, and the year 10000, which has
a sign and five digits, runs into the month. -/
theorem accepted_storage_may_not_read_back :
    (Settings.validate ⟨"%Y-%m-%d", "%y-%m-%d"⟩ = .ok ⟨"%Y-%m-%d", "%y-%m-%d"⟩ ∧
      (Date.mk 2070 1 1 (by decide)).format? "%y-%m-%d" = some "70-01-01" ∧
      Date.parse? "%y-%m-%d" "70-01-01" = some ⟨1970, 1, 1, by decide⟩ ∧
      ¬ (Date.mk 2070 1 1 (by decide)).IsReadBack "%y-%m-%d") ∧
      Settings.validate ⟨"%m/%d/%Y", "%Y%m%d"⟩ = .ok ⟨"%m/%d/%Y", "%Y%m%d"⟩ ∧
      (Date.mk 10000 1 1 (by decide)).format? "%Y%m%d" = some "+100000101" ∧
      Date.parse? "%Y%m%d" "+100000101" = none ∧
      ¬ (Date.mk 10000 1 1 (by decide)).IsReadBack "%Y%m%d" := by
  have hshort : Settings.validate ⟨"%Y-%m-%d", "%y-%m-%d"⟩ = .ok ⟨"%Y-%m-%d", "%y-%m-%d"⟩ :=
    Settings.validate_eq_ok_iff.2 (by decide +kernel)
  have hjoined : Settings.validate ⟨"%m/%d/%Y", "%Y%m%d"⟩ = .ok ⟨"%m/%d/%Y", "%Y%m%d"⟩ :=
    Settings.validate_eq_ok_iff.2 (by decide +kernel)
  refine ⟨⟨hshort, ?_⟩, hjoined, ?_⟩
  · rw [Date.IsReadBack]
    decide +kernel
  · rw [Date.IsReadBack]
    decide +kernel

end FormTree
