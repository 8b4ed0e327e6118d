import FormTree.Proofs.Calendar.Reading

/-!
# Dates from amounts

Amounts that belong to one date determine it if they include its year and its month and day, its
year and its ordinal, or its weekday and a week (`date?_of_suffice`). Which quantities are needed
does not depend on the date, so what has determined one date has enough quantities for any other
(`suffice_of_date?`). The year may be told by two digits alone, and then it is taken for a year from
1970 to 2069.
-/

namespace FormTree

namespace Amounts

variable {amounts : Amounts} {date : Date} {full century place : Option Int}

/-! ### Years -/

theorem isSome_or_of_fullYear? (h : (fullYear? full century place).isSome) :
    full.isSome ∨ place.isSome := by
  cases full <;> cases century <;> cases place <;> simp_all [fullYear?]

theorem isSome_of_consistentYear {year? : Option Int}
    (h : consistentYear full century place year? = true) (hcentury : century.isSome) :
    year?.isSome := by
  simpa [consistentYear, Option.isNone_eq_false_iff.2 hcentury] using h

/-- What is told about one year makes it up again, unless it is its century alone, or a place in a
century that is not the expected one. -/
theorem fullYear?_of_year (year : Int) (full century place : Option Int)
    (hfull : ∀ y ∈ full, y = year)
    (hcentury : ∀ c ∈ century, 0 ≤ year ∧ c = year / 100)
    (hplace : ∀ p ∈ place, 0 ≤ year ∧ p = year % 100)
    (hsome : century.isSome → full.isSome ∨ place.isSome)
    (hguess : place.isSome → full = none → century = none → 1970 ≤ year ∧ year ≤ 2069) :
    ((fullYear? full century place).isSome ↔ full.isSome ∨ place.isSome) ∧
      (∀ y ∈ fullYear? full century place, y = year) ∧
      consistentYear full century place (fullYear? full century place) = true := by
  cases full <;> cases century <;> cases place <;> simp_all [fullYear?, consistentYear] <;> omega

/-! ### Combinations -/

theorem mentions_iff {quantity : Quantity} : amounts.Mentions quantity ↔
    ∃ n, (find? quantity amounts).map Int.toNat = some n := by
  rw [← not_iff_not, ← find?_eq_none_iff]
  cases find? quantity amounts <;> simp

/-- Quantities that make up a date with a year, or with a year of the ISO week calendar. -/
def Combine (tells : Quantity → Prop) (year isoYear : Prop) : Prop :=
  year ∧ (tells .month ∧ tells .day ∨ tells .ordinal) ∨
    tells .weekday ∧ (year ∧ (tells .weekFromSunday ∨ tells .weekFromMonday) ∨
      isoYear ∧ tells .isoWeek)

variable {year? isoYear? : Option Int}

theorem combine_of_candidate? (h : candidate? amounts year? isoYear? = some date) :
    Combine amounts.Mentions year?.isSome isoYear?.isSome := by
  unfold candidate? at h
  dsimp only at h
  simp only [Combine, mentions_iff, Option.isSome_iff_exists]
  split at h
  · next year month day hmonth hday => exact .inl ⟨⟨year, rfl⟩, .inl ⟨⟨month, hmonth⟩, day, hday⟩⟩
  · next year ordinal hordinal _ => exact .inl ⟨⟨year, rfl⟩, .inr ⟨ordinal, hordinal⟩⟩
  · next weekday hweekday _ _ =>
    refine .inr ⟨⟨weekday, hweekday⟩, ?_⟩
    split at h
    · next _ _ _ _ _ year week hweek _ _ => exact .inl ⟨⟨year, rfl⟩, .inl ⟨week, hweek⟩⟩
    · next _ _ _ _ _ year week _ hweek _ _ => exact .inl ⟨⟨year, rfl⟩, .inr ⟨week, hweek⟩⟩
    · next _ _ _ _ _ year week hweek _ _ _ _ => exact .inr ⟨⟨year, rfl⟩, week, hweek⟩
    · nomatch h
  · nomatch h

theorem AreOf.eq_of_map_find? (h : amounts.AreOf date) {quantity : Quantity} {own n : Nat}
    (hown : date.quantity? quantity = some (own : Int))
    (hn : (find? quantity amounts).map Int.toNat = some n) : n = own := by
  obtain ⟨amount, hamount, rfl⟩ := Option.map_eq_some_iff.1 hn
  obtain rfl : amount = own := Option.some.inj ((h _ (mem_of_find? hamount)).symm.trans hown)
  exact Int.toNat_natCast own

/-- Amounts of a date that make up some date make up that one, by whichever combination. -/
theorem candidate?_eq (hare : amounts.AreOf date) (hyear : ∀ y ∈ year?, y = date.year)
    (hiso : ∀ y ∈ isoYear?, y = date.isoWeek.1)
    (h : Combine amounts.Mentions year?.isSome isoYear?.isSome) :
    candidate? amounts year? isoYear? = some date := by
  simp only [Combine, mentions_iff, Option.isSome_iff_exists] at h
  unfold candidate?
  dsimp only
  split
  · next year month day hm hd =>
    rw [hyear year rfl, hare.eq_of_map_find? rfl hm, hare.eq_of_map_find? rfl hd,
      date.ofParts?_self]
  · next year ordinal ho _ =>
    rw [hyear year rfl, hare.eq_of_map_find? rfl ho, date.ofOrdinal?_ordinal]
  · next weekday hw _ _ =>
    rw [hare.eq_of_map_find? rfl hw]
    split
    · next _ _ _ _ _ year week hs _ _ =>
      rw [hyear year rfl, hare.eq_of_map_find? rfl hs, date.ofWeek?_weekFromSunday]
    · next _ _ _ _ _ year week _ hs _ _ =>
      rw [hyear year rfl, hare.eq_of_map_find? rfl hs, date.ofWeek?_weekFromMonday]
    · next _ _ _ _ _ year week hv _ _ _ _ =>
      rw [hiso year rfl, hare.eq_of_map_find? rfl hv, date.ofIsoWeek?_isoWeek]
    · next _ _ _ hnoMonth hnoOrdinal hnoSunday hnoMonday hnoWeek =>
      exfalso
      rcases h with ⟨⟨y, hy⟩, ⟨⟨m, hm⟩, d, hd⟩ | ⟨o, ho⟩⟩ |
        ⟨-, ⟨⟨y, hy⟩, ⟨s, hs⟩ | ⟨m, hm⟩⟩ | ⟨⟨y, hy⟩, v, hv⟩⟩
      · exact hnoMonth y m d hy hm hd
      · exact hnoOrdinal y o hy ho
      · exact hnoSunday y s hy hs
      · cases hs : (find? .weekFromSunday amounts).map Int.toNat with
        | none => exact hnoMonday y m hy hs hm
        | some s => exact hnoSunday y s hy hs
      · exact hnoWeek y v hy hv
  · next _ _ hnoWeekday hnoMonth hnoOrdinal =>
    exfalso
    rcases h with ⟨⟨y, hy⟩, ⟨⟨m, hm⟩, d, hd⟩ | ⟨o, ho⟩⟩ | ⟨⟨w, hw⟩, -⟩
    · exact hnoMonth y m d hy hm hd
    · exact hnoOrdinal y o hy ho
    · exact Option.some_ne_none w (hw.symm.trans hnoWeekday)

/-! ### Dates -/

/-- Quantities that determine a date; a year is told in full or by its place in a century. -/
structure Suffice (tells : Quantity → Prop) : Prop where
  century : tells .century → tells .year ∨ tells .yearOfCentury
  combine : Combine tells (tells .year ∨ tells .yearOfCentury)
    (tells .isoYear ∨ tells .isoYearOfCentury)

theorem isSome_find?_iff {quantity : Quantity} :
    (find? quantity amounts).isSome ↔ amounts.Mentions quantity := by
  rw [← not_iff_not, ← find?_eq_none_iff, Option.not_isSome_iff_eq_none]

theorem Combine.mono {tells : Quantity → Prop} {year isoYear year' isoYear' : Prop}
    (h : Combine tells year isoYear) (hyear : year → year') (hiso : isoYear → isoYear') :
    Combine tells year' isoYear' := by
  rcases h with ⟨hy, hrest⟩ | ⟨hw, ⟨hy, hrest⟩ | ⟨hi, hrest⟩⟩
  · exact .inl ⟨hyear hy, hrest⟩
  · exact .inr ⟨hw, .inl ⟨hyear hy, hrest⟩⟩
  · exact .inr ⟨hw, .inr ⟨hiso hi, hrest⟩⟩

theorem date?_eq_some (h : amounts.date? = some date) :
    ∃ year? isoYear?, year? = fullYear? (find? .year amounts) (find? .century amounts)
        (find? .yearOfCentury amounts) ∧
      isoYear? = fullYear? (find? .isoYear amounts) none (find? .isoYearOfCentury amounts) ∧
      consistentYear (find? .year amounts) (find? .century amounts) (find? .yearOfCentury amounts)
        year? = true ∧
      candidate? amounts year? isoYear? = some date ∧ amounts.agree date = true := by
  rw [date?, Option.ite_none_right_eq_some, Bool.and_eq_true, Option.filter_eq_some_iff] at h
  exact ⟨_, _, rfl, rfl, h.1.1, h.2.1, h.2.2⟩

theorem suffice_of_date? (h : amounts.date? = some date) : Suffice amounts.Mentions := by
  obtain ⟨year?, isoYear?, rfl, rfl, hconsistent, hcandidate, -⟩ := date?_eq_some h
  constructor
  · intro hcentury
    have hknown := isSome_find?_iff.2 hcentury
    rw [← isSome_find?_iff, ← isSome_find?_iff]
    exact isSome_or_of_fullYear? (isSome_of_consistentYear hconsistent hknown)
  · refine (combine_of_candidate? hcandidate).mono (fun hyear => ?_) fun hyear => ?_
    · simpa only [isSome_find?_iff] using isSome_or_of_fullYear? hyear
    · simpa only [isSome_find?_iff] using isSome_or_of_fullYear? hyear

theorem areOf_of_date? (h : amounts.date? = some date)
    (hcalendar : ∀ quantity, amounts.Mentions quantity → quantity.isClock = false) :
    amounts.AreOf date := by
  obtain ⟨-, -, -, -, -, -, hagree⟩ := date?_eq_some h
  intro entry hentry
  have hentryAgrees := List.all_eq_true.1 hagree entry hentry
  simpa [hcalendar entry.1 ⟨entry.2, hentry⟩] using hentryAgrees

/-- Amounts of a date that suffice determine the date. -/
theorem date?_of_suffice (hare : amounts.AreOf date) (hsuffice : Suffice amounts.Mentions)
    (hguess : amounts.Mentions .yearOfCentury → ¬ amounts.Mentions .year →
      ¬ amounts.Mentions .century → 1970 ≤ date.year ∧ date.year ≤ 2069)
    (hisoGuess : amounts.Mentions .isoYearOfCentury → ¬ amounts.Mentions .isoYear →
      1970 ≤ date.isoWeek.1 ∧ date.isoWeek.1 ≤ 2069) : amounts.date? = some date := by
  have hvalue : ∀ {quantity amount}, find? quantity amounts = some amount →
      date.quantity? quantity = some amount := fun h => hare _ (mem_of_find? h)
  obtain ⟨hyearKnown, hyear, hyearConsistent⟩ := fullYear?_of_year date.year
    (find? .year amounts) (find? .century amounts) (find? .yearOfCentury amounts)
    (fun y hy => (Option.some.inj (hvalue hy)).symm)
    (fun c hc => by simpa [Date.quantity?, eq_comm] using hvalue hc)
    (fun p hp => by simpa [Date.quantity?, eq_comm] using hvalue hp)
    (by simpa only [isSome_find?_iff] using hsuffice.century)
    (by simpa only [isSome_find?_iff, find?_eq_none_iff] using hguess)
  obtain ⟨hisoKnown, hiso, hisoConsistent⟩ := fullYear?_of_year date.isoWeek.1
    (find? .isoYear amounts) none (find? .isoYearOfCentury amounts)
    (fun y hy => (Option.some.inj (hvalue hy)).symm) nofun
    (fun p hp => by simpa [Date.quantity?, eq_comm] using hvalue hp) nofun
    (by simpa only [isSome_find?_iff, find?_eq_none_iff, forall_const] using hisoGuess)
  rw [isSome_find?_iff, isSome_find?_iff] at hyearKnown hisoKnown
  have hcandidate := candidate?_eq hare hyear hiso
    (hsuffice.combine.mono hyearKnown.2 hisoKnown.2)
  have hagree : amounts.agree date = true := by
    rw [agree, List.all_eq_true]
    intro entry hentry
    simp [hare entry hentry]
  rw [date?, hyearConsistent, hisoConsistent, Bool.and_self, if_pos rfl, hcandidate,
    Option.filter_some, if_pos hagree]

end Amounts

end FormTree
