import FormTree.Calendar.Date
import Mathlib.Tactic.IntervalCases

/-!
# Dates found again

A date is found from its year and any one of its month and day, its ordinal, its weekday and week
from the first Sunday or Monday, or from the year, the week and the weekday of the ISO week
calendar. Years go on where the last one ended (`daysBeforeYear_succ`), so a week that reaches into
a neighbouring year has its days there.
-/

namespace FormTree

namespace Date

variable (date : Date)

/-! ### Months and ordinals -/

theorem ofParts?_self : ofParts? date.year date.month date.day = some date := dif_pos date.valid

theorem monthAndDay?_add {lengths : List Nat} {day : Nat} (hday : 1 ≤ day) (i month : Nat)
    (hlength : ∃ length ∈ lengths[i]?, day ≤ length) :
    monthAndDay? lengths month ((lengths.take i).sum + day) = some (month + i, day) := by
  induction lengths generalizing i month with
  | nil => simp at hlength
  | cons length rest ih =>
    cases i with
    | zero =>
      have hle : day ≤ length := by simpa using hlength
      simp [monthAndDay?, hle]
    | succ i =>
      have hlate : ¬ length + (rest.take i).sum + day ≤ length := by omega
      have hleft : length + (rest.take i).sum + day - length = (rest.take i).sum + day := by omega
      have hrest := ih i (month + 1) (by simpa using hlength)
      rw [List.take_succ_cons, List.sum_cons, monthAndDay?, if_neg hlate, hleft, hrest,
        Nat.add_assoc, Nat.add_comm 1 i]

theorem foldl_add (days : List Nat) (day : Nat) : days.foldl (· + ·) day = days.sum + day := by
  induction days generalizing day with
  | nil => simp
  | cons first rest ih =>
    rw [List.foldl_cons, ih, List.sum_cons]
    omega

theorem ordinal_eq :
    date.ordinal = ((monthLengths date.year).take (date.month - 1)).sum + date.day :=
  foldl_add _ _

theorem exists_monthLength : 1 ≤ date.month ∧ 1 ≤ date.day ∧
    ∃ length ∈ (monthLengths date.year)[date.month - 1]?, date.day ≤ length := by
  obtain ⟨-, -, hday, hlength⟩ := date.valid
  rw [daysInMonth] at hlength
  split at hlength
  · omega
  · next hmonth =>
    cases h : (monthLengths date.year)[date.month - 1]? with
    | none =>
      rw [h, Option.getD_none] at hlength
      omega
    | some length =>
      rw [h, Option.getD_some] at hlength
      exact ⟨by omega, hday, length, rfl, hlength⟩

theorem year_bounds : -262143 ≤ date.year ∧ date.year ≤ 262142 :=
  ⟨date.valid.1, date.valid.2.1⟩

theorem month_bounds : 1 ≤ date.month ∧ date.month ≤ 12 := by
  obtain ⟨hmonth, -, length, hlength, -⟩ := date.exists_monthLength
  have hlt := (List.getElem?_eq_some_iff.1 hlength).1
  have hmonths : (monthLengths date.year).length = 12 := rfl
  omega

theorem day_bounds : 1 ≤ date.day ∧ date.day ≤ 31 := by
  obtain ⟨-, hpos, length, hlength, hday⟩ := date.exists_monthLength
  have hlong : ∀ days ∈ monthLengths date.year, days ≤ 31 := by
    rw [monthLengths]
    split <;> decide
  exact ⟨hpos, hday.trans (hlong length (List.mem_of_getElem? hlength))⟩

theorem quarter_bounds : 1 ≤ date.quarter ∧ date.quarter ≤ 4 := by
  have hmonth := date.month_bounds
  rw [quarter]
  omega

theorem ofOrdinal?_ordinal : ofOrdinal? date.year date.ordinal = some date := by
  obtain ⟨hmonth, hday, hlength⟩ := date.exists_monthLength
  rw [ofOrdinal?, ordinal_eq, monthAndDay?_add hday _ _ hlength, Option.bind_some,
    Nat.add_sub_cancel' hmonth]
  exact date.ofParts?_self

theorem daysInYear_eq_sum (year : Int) : daysInYear year = (monthLengths year).sum := by
  rw [daysInYear, monthLengths]
  split <;> rfl

theorem one_le_ordinal : 1 ≤ date.ordinal := by
  obtain ⟨-, hday, -⟩ := date.exists_monthLength
  rw [ordinal_eq]
  omega

theorem ordinal_le : date.ordinal ≤ daysInYear date.year := by
  obtain ⟨-, -, length, hlength, hday⟩ := date.exists_monthLength
  have hsplit := List.take_append_drop (date.month - 1) (monthLengths date.year)
  obtain ⟨hlt, hget⟩ := List.getElem?_eq_some_iff.1 hlength
  rw [List.drop_eq_getElem_cons hlt, hget] at hsplit
  rw [daysInYear_eq_sum, ← hsplit, ordinal_eq, List.sum_append, List.sum_cons]
  omega

theorem daysInYear_bounds (year : Int) : 365 ≤ daysInYear year ∧ daysInYear year ≤ 366 := by
  rw [daysInYear]
  split <;> omega

theorem ordinal_bounds : 1 ≤ date.ordinal ∧ date.ordinal ≤ 366 :=
  ⟨date.one_le_ordinal, date.ordinal_le.trans (daysInYear_bounds date.year).2⟩

/-! ### Weeks -/

theorem weekday_lt : date.weekday < 7 := by
  rw [weekday, weekdayOf]
  omega

theorem daysBeforeYear_succ (year : Int) :
    daysBeforeYear (year + 1) = daysBeforeYear year + daysInYear year := by
  simp only [daysBeforeYear, daysInYear, isLeapYear, decide_eq_true_eq]
  split <;> omega

theorem weekday_eq : (date.weekday : Int) = (daysBeforeYear date.year + date.ordinal - 1) % 7 := by
  rw [weekday, weekdayOf]
  omega

theorem daysFromSunday_lt : date.daysFromSunday < 7 := Nat.mod_lt _ (by decide)

theorem weekFromSunday_le : date.weekFromSunday ≤ 53 := by
  have hordinal := date.ordinal_bounds
  rw [weekFromSunday]
  omega

theorem weekFromMonday_le : date.weekFromMonday ≤ 53 := by
  have hordinal := date.ordinal_bounds
  rw [weekFromMonday]
  omega

/-- The week that is counted from the first day of the year that is `start`. -/
theorem ofWeek?_self (start : Nat) (hstart : start < 7) :
    ofWeek? date.year ((date.ordinal + 6 - (date.weekday + 7 - start) % 7) / 7) date.weekday start =
      some date := by
  have hpos := date.one_le_ordinal
  have hweekday := date.weekday_eq
  have hordinal : 1 + ((start + 7 - weekdayOf date.year 1) % 7 : Nat) +
      7 * (((date.ordinal + 6 - (date.weekday + 7 - start) % 7) / 7 : Nat) - 1 : Int) +
      ((date.weekday + 7 - start) % 7 : Nat) = (date.ordinal : Int) := by
    rw [weekdayOf]
    omega
  rw [ofWeek?]
  simp only [hordinal]
  rw [if_neg (by omega), Int.toNat_natCast, ofOrdinal?_ordinal]

theorem ofWeek?_weekFromSunday :
    ofWeek? date.year date.weekFromSunday date.weekday 6 = some date :=
  date.ofWeek?_self 6 (by decide)

theorem ofWeek?_weekFromMonday :
    ofWeek? date.year date.weekFromMonday date.weekday 0 = some date := by
  have hlt := date.weekday_lt
  have hself := date.ofWeek?_self 0 (by decide)
  rwa [show (date.weekday + 7 - 0) % 7 = date.weekday by omega] at hself

/-! ### Weeks of the ISO calendar -/

theorem ofOffset?_ordinal : ofOffset? date.year date.ordinal = some date := by
  have hpos := date.one_le_ordinal
  have hle := date.ordinal_le
  rw [ofOffset?, if_neg (by omega), if_neg (by omega), Int.toNat_natCast, ofOrdinal?_ordinal]

theorem ofOffset?_of_next {year : Int} (hyear : date.year = year + 1) :
    ofOffset? year (daysInYear year + date.ordinal) = some date := by
  have hpos := date.one_le_ordinal
  rw [ofOffset?, if_neg (by omega), if_pos (by omega), ← hyear,
    show (daysInYear year + date.ordinal - daysInYear year : Int) = date.ordinal by omega,
    Int.toNat_natCast, ofOrdinal?_ordinal]

theorem ofOffset?_of_previous {year : Int} (hyear : date.year = year - 1) :
    ofOffset? year (date.ordinal - daysInYear date.year) = some date := by
  have hle := date.ordinal_le
  rw [ofOffset?, if_pos (by omega), ← hyear,
    show (date.ordinal - daysInYear date.year + daysInYear date.year : Int) = date.ordinal by omega,
    Int.toNat_natCast, ofOrdinal?_ordinal]

theorem weekdayOf_eq (year ordinal : Int) :
    (weekdayOf year ordinal : Int) = (daysBeforeYear year + ordinal - 1) % 7 := by
  rw [weekdayOf]
  omega

theorem isoWeeksIn_cases (year : Int) :
    isoWeeksIn year = 53 ∧
        (weekdayOf year 1 = 3 ∨ weekdayOf year 1 = 2 ∧ daysInYear year = 366) ∨
      isoWeeksIn year = 52 ∧ weekdayOf year 1 ≠ 3 ∧
        (weekdayOf year 1 = 2 → daysInYear year = 365) := by
  rw [isoWeeksIn, daysInYear]
  cases isLeapYear year <;> simp <;> omega

theorem isoWeeksIn_bounds (year : Int) : 52 ≤ isoWeeksIn year ∧ isoWeeksIn year ≤ 53 := by
  rcases isoWeeksIn_cases year with ⟨hweeks, -⟩ | ⟨hweeks, -⟩ <;> omega

theorem isoWeek_cases :
    (date.ordinal + 9 - date.weekday) / 7 = 0 ∧
        date.isoWeek = (date.year - 1, isoWeeksIn (date.year - 1)) ∨
      isoWeeksIn date.year < (date.ordinal + 9 - date.weekday) / 7 ∧
        date.isoWeek = (date.year + 1, 1) ∨
      (1 ≤ (date.ordinal + 9 - date.weekday) / 7 ∧
        (date.ordinal + 9 - date.weekday) / 7 ≤ isoWeeksIn date.year) ∧
        date.isoWeek = (date.year, (date.ordinal + 9 - date.weekday) / 7) := by
  rw [isoWeek]
  split
  · next hzero => exact .inl ⟨hzero, rfl⟩
  · split
    · next hlate => exact .inr (.inl ⟨hlate, rfl⟩)
    · next hpos hle => exact .inr (.inr ⟨⟨by omega, by omega⟩, rfl⟩)

theorem isoWeek_bounds : 1 ≤ date.isoWeek.2 ∧ date.isoWeek.2 ≤ 53 := by
  have hlast := isoWeeksIn_bounds (date.year - 1)
  have hthis := isoWeeksIn_bounds date.year
  rcases date.isoWeek_cases with ⟨hweek, heq⟩ | ⟨hweek, heq⟩ | ⟨hweek, heq⟩ <;>
    simp only [heq] <;> omega

theorem isoYear_bounds : date.year - 1 ≤ date.isoWeek.1 ∧ date.isoWeek.1 ≤ date.year + 1 := by
  rcases date.isoWeek_cases with ⟨-, heq⟩ | ⟨-, heq⟩ | ⟨-, heq⟩ <;> simp only [heq] <;> omega

/-- A date is found from its week of the ISO calendar, which may belong to a neighbouring year. -/
theorem ofIsoWeek?_isoWeek : ofIsoWeek? date.isoWeek.1 date.isoWeek.2 date.weekday = some date := by
  have hlt := date.weekday_lt
  have hpos := date.one_le_ordinal
  have hle := date.ordinal_le
  have hweekday := date.weekday_eq
  rcases date.isoWeek_cases with ⟨hweek, heq⟩ | ⟨hweek, heq⟩ | ⟨hweek, heq⟩ <;>
    simp only [heq, ofIsoWeek?]
  · have hweeks := isoWeeksIn_cases (date.year - 1)
    have hfirst := weekdayOf_eq (date.year - 1) 1
    have hfourth := weekdayOf_eq (date.year - 1) 4
    have hsucc := daysBeforeYear_succ (date.year - 1)
    have hbounds := daysInYear_bounds (date.year - 1)
    rw [Int.sub_add_cancel] at hsucc
    have hoffset : 4 - (weekdayOf (date.year - 1) 4 : Int) +
        7 * ((isoWeeksIn (date.year - 1) : Int) - 1) + date.weekday =
        daysInYear (date.year - 1) + date.ordinal := by
      omega
    rw [if_pos ⟨by omega, le_rfl, hlt⟩, hoffset, ofOffset?_of_next date (by omega)]
  · have hweeks := isoWeeksIn_cases date.year
    have hnext := isoWeeksIn_bounds (date.year + 1)
    have hfirst := weekdayOf_eq date.year 1
    have hfourth := weekdayOf_eq (date.year + 1) 4
    have hsucc := daysBeforeYear_succ date.year
    have hbounds := daysInYear_bounds date.year
    have hoffset : 4 - (weekdayOf (date.year + 1) 4 : Int) + 7 * (((1 : Nat) : Int) - 1) +
        date.weekday = date.ordinal - daysInYear date.year := by
      omega
    rw [if_pos ⟨by omega, by omega, hlt⟩, hoffset, ofOffset?_of_previous date (by omega)]
  · have hfourth := weekdayOf_eq date.year 4
    have hoffset : 4 - (weekdayOf date.year 4 : Int) +
        7 * (((date.ordinal + 9 - date.weekday) / 7 : Nat) - 1 : Int) + date.weekday =
        date.ordinal := by
      omega
    rw [if_pos ⟨hweek.1, hweek.2, hlt⟩, hoffset, ofOffset?_ordinal]

end Date

end FormTree
