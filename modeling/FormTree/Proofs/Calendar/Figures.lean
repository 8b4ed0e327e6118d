import FormTree.Calendar.Reading
import FormTree.Proofs.Calendar.Date
import FormTree.Proofs.Calendar.Writing
import FormTree.Proofs.Number.Text

/-!
# Numbers in written dates

A number field is written for a date in one of four ways (`number_of_number?`), and each is blanks
and a figure: digits, not more than the field may have, or a sign and digits (`Number.holds`). A
figure is read as its number if what follows cannot be taken for more of it
(`amount?_of_endsBefore`). Otherwise the field takes digits that do not belong to it, and its number
is another one, unless it is zero and so are the digits (`amount?_of_runsOn`).
-/

namespace FormTree

open Numeral

/-- The number that a field writes for a date; the clock has none. -/
def Date.amount (date : Date) : NumberField → Int
  | .year => date.year
  | .century => date.year / 100
  | .yearOfCentury => date.year % 100
  | .isoYear => date.isoWeek.1
  | .isoYearOfCentury => date.isoWeek.1 % 100
  | .isoWeek => date.isoWeek.2
  | .quarter => date.quarter
  | .month => date.month
  | .day => date.day
  | .ordinal => date.ordinal
  | .weekFromSunday => date.weekFromSunday
  | .weekFromMonday => date.weekFromMonday
  | .daysFromSunday => date.daysFromSunday
  | .daysFromMonday => date.weekday + 1
  | .hour | .hourOfHalf | .minute | .second | .nanosecond | .timestamp => 0

/-- The most digits that a field of the calendar takes where there is no sign. -/
def NumberField.width (field : NumberField) : Nat := (Reading.shape field).1.getD 0

def NumberField.hasSign (field : NumberField) : Bool := (Reading.shape field).2

namespace Writing

/-- The text of a number in a field, without the blanks before it. -/
inductive Figure (field : NumberField) (amount : Int) : List Char → Prop where
  | bare {digits : List Char} : AllDigits digits → digits ≠ [] → digits.length ≤ field.width →
    (Digits.number digits : Int) = amount → Figure field amount digits
  | plus {digits : List Char} : field.hasSign = true → AllDigits digits → digits ≠ [] →
    amount ≠ 0 → (Digits.number digits : Int) = amount → Figure field amount ('+' :: digits)
  | minus {digits : List Char} : field.hasSign = true → AllDigits digits → digits ≠ [] →
    amount ≠ 0 → -(Digits.number digits : Int) = amount → Figure field amount ('-' :: digits)

/-- A figure behind blanks. -/
def Holds (field : NumberField) (amount : Int) (text : List Char) : Prop :=
  ∃ blanks figure, text = List.replicate blanks ' ' ++ figure ∧ Figure field amount figure

/-- More digits behind a figure would be read as a part of it: it has a sign, or fewer digits than
its field may have. -/
def RunsOn (field : NumberField) (figure : List Char) : Prop :=
  figure.head? = some '-' ∨ figure.head? = some '+' ∨ figure.length < field.width

variable {field : NumberField} {amount : Int} {text : List Char} {n : Nat}

theorem Figure.holds (h : Figure field amount text) : Holds field amount text := ⟨0, text, rfl, h⟩

theorem Holds.blanks (h : Holds field amount text) (k : Nat) :
    Holds field amount (List.replicate k ' ' ++ text) := by
  obtain ⟨blanks, figure, rfl, hfigure⟩ := h
  exact ⟨k + blanks, figure, by rw [List.replicate_add, List.append_assoc], hfigure⟩

/-! ### Digits -/

theorem isDigit_digitChar (hn : n < 10) : (digitChar n).isDigit = true := by
  have hall : ∀ n < 10, (digitChar n).isDigit = true := by decide
  exact hall n hn

theorem toNat_digitChar (hn : n < 10) : (digitChar n).toNat - 48 = n := by
  have hall : ∀ n < 10, (digitChar n).toNat - 48 = n := by decide
  exact hall n hn

theorem figure_digitChar (hn : n < 10) (hwidth : 1 ≤ field.width) :
    Figure field n [digitChar n] := by
  refine .bare ?_ (List.cons_ne_nil _ _) hwidth ?_
  · simp [AllDigits, isDigit_digitChar hn]
  · simp [Digits.number, toNat_digitChar hn]

theorem figure_two_digitChar (hn : n < 100) (hwidth : 2 ≤ field.width) :
    Figure field n [digitChar (n / 10), digitChar (n % 10)] := by
  have htens : n / 10 < 10 := by omega
  have hones : n % 10 < 10 := Nat.mod_lt _ (by decide)
  refine .bare ?_ (List.cons_ne_nil _ _) hwidth ?_
  · simp [AllDigits, isDigit_digitChar, hones, htens]
  · simp [Digits.number, toNat_digitChar, hones, htens]
    omega

theorem holds_twoDigits (padding : Padding) (hn : n < 100) (hwidth : 2 ≤ field.width) :
    Holds field n (twoDigits padding n) := by
  have htwo := (figure_two_digitChar hn hwidth).holds
  rw [twoDigits.eq_def]
  split
  · next hsmall =>
    have hones : n % 10 = n := by omega
    have hone := (figure_digitChar (show n < 10 by omega) (by omega : 1 ≤ field.width)).holds
    rw [hones]
    cases padding with
    | none => exact hone
    | space => exact hone.blanks 1
    | zero =>
      rw [hsmall, hones] at htwo
      exact htwo
  · exact htwo

theorem length_digits_le {k : Nat} (hk : 0 < k) (hn : n < 10 ^ k) : (digits n).length ≤ k := by
  rw [digits, Nat.toString_eq_repr, Nat.toList_repr, Nat.length_toDigits_le_iff (by decide) hk]
  exact hn

theorem figure_digits (field : NumberField) (n : Nat) (hn : n < 10 ^ field.width)
    (hwidth : 0 < field.width) (zeros : Nat) (hzeros : zeros ≤ field.width - (digits n).length) :
    Figure field n (List.replicate zeros '0' ++ digits n) := by
  have hlength := length_digits_le hwidth hn
  refine .bare ((allDigits_zeros zeros).append (allDigits_toString n)) ?_ ?_ ?_
  · exact List.append_ne_nil_of_right_ne_nil _ (toString_ne_nil n)
  · rw [List.length_append, List.length_replicate]
    omega
  · rw [Digits.number_zeros_append, digits, Digits.number_toString]

theorem holds_threeDigits (padding : Padding) (hn : n < 1000) (hwidth : field.width = 3) :
    Holds field n (threeDigits padding n) := by
  have hfigure := figure_digits field n (by rwa [hwidth]) (by omega)
  rw [hwidth] at hfigure
  rw [threeDigits.eq_def]
  cases padding with
  | none => exact (hfigure 0 (Nat.zero_le _)).holds
  | space => exact (hfigure 0 (Nat.zero_le _)).holds.blanks _
  | zero => exact (hfigure _ le_rfl).holds

theorem figure_signed (hsign : field.hasSign = true) (hsigned : amount < 0 ∨ 9999 < amount)
    (zeros : Nat) : Figure field amount ((if amount < 0 then '-' else '+') ::
      (List.replicate zeros '0' ++ digits amount.natAbs)) := by
  have hdigits := (allDigits_zeros zeros).append (allDigits_toString amount.natAbs)
  have hne := List.append_ne_nil_of_right_ne_nil (List.replicate zeros '0')
    (toString_ne_nil amount.natAbs)
  have hnumber : Digits.number (List.replicate zeros '0' ++ digits amount.natAbs) =
      amount.natAbs := by
    rw [Digits.number_zeros_append, digits, Digits.number_toString]
  split
  · exact .minus hsign hdigits hne (by omega) (by rw [hnumber]; omega)
  · exact .plus hsign hdigits hne (by omega) (by rw [hnumber]; omega)

theorem holds_year (padding : Padding) (amount : Int) (hwidth : field.width = 4)
    (hsign : field.hasSign = true) : Holds field amount (year padding amount) := by
  rw [year.eq_def]
  by_cases hsigned : amount < 0 ∨ 9999 < amount
  · have hfigure := figure_signed hsign hsigned
    simp only [if_pos hsigned]
    cases padding with
    | none => exact (hfigure 0).holds
    | space =>
      rw [List.append_assoc]
      exact (hfigure 0).holds.blanks _
    | zero => exact (hfigure _).holds
  · obtain ⟨n, rfl⟩ := Int.eq_ofNat_of_zero_le (show 0 ≤ amount by omega)
    have hfigure := figure_digits field n (by rw [hwidth]; omega) (by omega)
    rw [hwidth] at hfigure
    simp only [if_neg hsigned, Int.natAbs_natCast]
    cases padding with
    | none => exact (hfigure 0 (Nat.zero_le _)).holds
    | space =>
      rw [List.append_nil]
      exact (hfigure 0 (Nat.zero_le _)).holds.blanks _
    | zero => exact (hfigure _ le_rfl).holds

/-- How a number field is written for a date: as a year, or with up to three, two or one digits. A
century of more than two digits is not written as its number. -/
inductive Number (date : Date) (field : NumberField) (padding : Padding) : List Char → Prop where
  | year : field.width = 4 → field.hasSign = true →
    Number date field padding (year padding (date.amount field))
  | three {n : Nat} : field.width = 3 → n ≠ 0 → n < 1000 → (n : Int) = date.amount field →
    Number date field padding (threeDigits padding n)
  | two {n : Nat} : field.width = 2 → n < 256 →
    ((field = .century → 0 ≤ date.year ∧ date.year ≤ 9999) →
      n < 100 ∧ (n : Int) = date.amount field) →
    Number date field padding (twoDigits padding n)
  | one {n : Nat} : field.width = 1 → n < 10 → (n : Int) = date.amount field →
    Number date field padding [digitChar n]

theorem number_of_number? {date : Date} {padding : Padding}
    (h : number? date field padding = some text) : Number date field padding text := by
  have hmonth := date.month_bounds
  have hday := date.day_bounds
  have hordinal := date.ordinal_bounds
  have hsunday := date.weekFromSunday_le
  have hmonday := date.weekFromMonday_le
  have hweek := date.isoWeek_bounds
  have hquarter := date.quarter_bounds
  have hweekday := date.weekday_lt
  have hfromSunday := date.daysFromSunday_lt
  cases field <;> simp only [number?, Option.some.injEq, reduceCtorEq] at h <;> subst h
  case year => exact .year rfl rfl
  case isoYear => exact .year rfl rfl
  case ordinal => exact .three rfl (by omega) (by omega) rfl
  case quarter => exact .one rfl (by omega) rfl
  case daysFromSunday => exact .one rfl (by omega) rfl
  case daysFromMonday => exact .one rfl (by omega) rfl
  case century =>
    refine .two rfl (by omega) fun htold => ?_
    obtain ⟨hpos, hle⟩ := htold rfl
    rw [Date.amount]
    omega
  case yearOfCentury => exact .two rfl (by omega) fun _ => by rw [Date.amount]; omega
  case isoYearOfCentury => exact .two rfl (by omega) fun _ => by rw [Date.amount]; omega
  all_goals exact .two rfl (by omega) fun _ => ⟨by omega, rfl⟩

/-- What a number field writes for a date is its number, unless it is a century of more than two
digits. -/
theorem Number.holds {date : Date} {padding : Padding} (h : Number date field padding text)
    (hcentury : field = .century → 0 ≤ date.year ∧ date.year ≤ 9999) :
    Holds field (date.amount field) text := by
  cases h with
  | year hwidth hsign => exact holds_year padding _ hwidth hsign
  | three hwidth _ hn hamount => exact hamount ▸ holds_threeDigits padding hn hwidth
  | two hwidth _ htold =>
    obtain ⟨hn, hamount⟩ := htold hcentury
    exact hamount ▸ holds_twoDigits padding hn hwidth.ge
  | one hwidth hn hamount => exact hamount ▸ (figure_digitChar hn hwidth.ge).holds

theorem Figure.trimStart_append {figure : List Char} (h : Figure field amount figure)
    (behind : List Char) : trimStart (figure ++ behind) = figure ++ behind := by
  cases h with
  | plus => rfl
  | minus => rfl
  | bare hdigits hne =>
    obtain ⟨c, digits, rfl⟩ := List.exists_cons_of_ne_nil hne
    exact trimStart_of_not_isBlank _ (not_isBlank_of_isDigit (hdigits c List.mem_cons_self))

theorem trimStart_blanks (k : Nat) (text : List Char) :
    trimStart (List.replicate k ' ' ++ text) = trimStart text := by
  induction k with
  | zero => rfl
  | succ k ih => exact ih

/-- Behind its blanks, a written number begins with its figure. -/
theorem Holds.exists_figure (h : Holds field amount text) : ∃ figure, Figure field amount figure ∧
    ∀ behind, trimStart (text ++ behind) = figure ++ behind := by
  obtain ⟨blanks, figure, rfl, hfigure⟩ := h
  refine ⟨figure, hfigure, fun behind => ?_⟩
  rw [List.append_assoc, trimStart_blanks, hfigure.trimStart_append]

end Writing

namespace Reading

open Writing

variable {field : NumberField} {amount : Int} {figure digits behind : List Char}

/-- The digits of a text that a number of so many digits still takes. -/
def more (width : Option Nat) (taken : Nat) (text : List Char) : List Char :=
  match width with
  | some w => (text.takeWhile Char.isDigit).take (w - taken)
  | none => text.takeWhile Char.isDigit

theorem allDigits_more (width : Option Nat) (taken : Nat) (text : List Char) :
    AllDigits (more width taken text) := by
  cases width with
  | none => exact allDigits_takeWhile text
  | some w => exact (allDigits_takeWhile text).take _

theorem digits?_eq (width : Option Nat) (text : List Char) : digits? width text =
    if (more width 0 text).isEmpty then none
    else some (Digits.number (more width 0 text), text.drop (more width 0 text).length) := by
  cases width <;> rfl

theorem more_append (hdigits : AllDigits digits) {width : Option Nat}
    (hwidth : ∀ w ∈ width, digits.length ≤ w) (text : List Char) :
    more width 0 (digits ++ text) = digits ++ more width digits.length text := by
  have hrun : (digits ++ text).takeWhile Char.isDigit = digits ++ text.takeWhile Char.isDigit :=
    List.takeWhile_append_of_pos hdigits
  cases width with
  | none => exact hrun
  | some w =>
    rw [more, hrun, Nat.sub_zero, List.take_append, List.take_of_length_le (hwidth w rfl)]
    rfl

theorem digits?_append (hdigits : AllDigits digits) (hne : digits ≠ []) (width : Option Nat)
    (hwidth : ∀ w ∈ width, digits.length ≤ w) (text : List Char) :
    digits? width (digits ++ text) =
      some (Digits.number (digits ++ more width digits.length text),
        text.drop (more width digits.length text).length) := by
  have hnonempty : ¬ (digits ++ more width digits.length text).isEmpty = true := by simp [hne]
  rw [digits?_eq, more_append hdigits hwidth, if_neg hnonempty, List.length_append,
    List.drop_append, List.drop_eq_nil_of_le (Nat.le_add_right _ _), Nat.add_sub_cancel_left,
    List.nil_append]

theorem more_eq_nil {width : Option Nat} {taken : Nat}
    (h : EndsBefore behind ∨ ∃ w ∈ width, w ≤ taken) : more width taken behind = [] := by
  rcases h with hends | ⟨w, rfl, hle⟩
  · have hrun : behind.takeWhile Char.isDigit = [] := by
      have hnone : AllDigits [] := List.forall_mem_nil _
      exact (takeWhile_append hnone hends).1
    cases width <;> simp [more, hrun]
  · simp [more, hle]

theorem exists_more_eq_cons {width : Option Nat} {taken : Nat} (hdigit : ¬ EndsBefore behind)
    (hroom : ∀ w ∈ width, taken < w) :
    ∃ c rest, behind.head? = some c ∧ more width taken behind = c :: rest := by
  cases behind with
  | nil => exact absurd nofun hdigit
  | cons c behind =>
    have hc : c.isDigit = true := by simpa [EndsBefore] using hdigit
    cases width with
    | none => exact ⟨c, _, rfl, List.takeWhile_cons_of_pos hc⟩
    | some w =>
      obtain ⟨k, hk⟩ := Nat.exists_eq_add_of_lt (hroom w rfl)
      refine ⟨c, (behind.takeWhile Char.isDigit).take k, rfl, ?_⟩
      rw [more, List.takeWhile_cons_of_pos hc, hk, show taken + k + 1 - taken = k + 1 by omega,
        List.take_succ_cons]

theorem eq_zero_of_number_append {c : Char} {rest : List Char} (hc : c.isDigit = true)
    (h : Digits.number (digits ++ c :: rest) = Digits.number digits) :
    Digits.number digits = 0 ∧ c = '0' := by
  have hsplit : digits ++ c :: rest = digits ++ [c] ++ rest := by simp
  have hpower : 0 < Nat.pow 10 rest.length := Nat.pow_pos (by decide)
  rw [hsplit, Digits.number_append, Digits.number_concat] at h
  have hle : 10 * Digits.number digits + (c.toNat - 48) ≤
      (10 * Digits.number digits + (c.toNat - 48)) * Nat.pow 10 rest.length :=
    Nat.le_mul_of_pos_right _ hpower
  have hzero : c.toNat - 48 = 0 ∧ Digits.number digits = 0 := by omega
  simp only [Char.isDigit, Bool.and_eq_true, decide_eq_true_eq, UInt32.le_iff_toNat_le] at hc
  refine ⟨hzero.2, Char.toNat_inj.1 ?_⟩
  have hleast : 48 ≤ c.toNat := hc.1
  have hcode : '0'.toNat = 48 := rfl
  omega

theorem digits?_of_room (hdigits : AllDigits digits) (hne : digits ≠ []) (width : Option Nat)
    (hroom : ∀ w ∈ width, digits.length < w) (hdigit : ¬ EndsBefore behind) :
    ∃ n left, digits? width (digits ++ behind) = some (n, left) ∧
      (n = Digits.number digits → Digits.number digits = 0 ∧ behind.head? = some '0') := by
  obtain ⟨c, rest, hhead, hmore⟩ := exists_more_eq_cons hdigit hroom
  have hc : c.isDigit = true := by
    have hall := allDigits_more width digits.length behind
    rw [hmore] at hall
    exact hall c List.mem_cons_self
  have hle : ∀ w ∈ width, digits.length ≤ w := fun w hw => (hroom w hw).le
  refine ⟨_, _, digits?_append hdigits hne width hle behind, fun heq => ?_⟩
  rw [hmore] at heq
  obtain ⟨hzero, rfl⟩ := eq_zero_of_number_append hc heq
  exact ⟨hzero, hhead⟩

/-- The number at the start of a text, and what is left. -/
def amount? (field : NumberField) (text : List Char) : Option (Int × List Char) :=
  if field.hasSign then signed? field.width text
  else (digits? (some field.width) text).map fun (n, rest) => ((n : Int), rest)

theorem numberField?_eq {field : NumberField} (hcalendar : field.IsCalendar) (amounts : Amounts)
    (text : List Char) : numberField? field (amounts, text) =
      (amount? field (trimStart text)).bind fun read =>
        (noteNumber? read.1 amounts field).map (·, read.2) := by
  cases field <;> first | rfl | exact hcalendar.elim

theorem amount?_digits (hdigits : AllDigits digits) (hne : digits ≠ []) (field : NumberField)
    (text : List Char) : amount? field (digits ++ text) =
      (digits? (some field.width) (digits ++ text)).map fun (n, rest) => ((n : Int), rest) := by
  obtain ⟨c, rest, rfl⟩ := List.exists_cons_of_ne_nil hne
  obtain ⟨hminus, hplus⟩ := not_sign_of_isDigit (hdigits c List.mem_cons_self)
  have hsigned : signed? field.width (c :: rest ++ text) =
      (digits? (some field.width) (c :: rest ++ text)).map fun (n, rest) => ((n : Int), rest) := by
    rw [List.cons_append, signed?.eq_def]
    split <;> simp_all
  rw [amount?, hsigned, ite_self]

theorem amount?_of_endsBefore (h : Figure field amount figure)
    (hends : RunsOn field figure → EndsBefore behind) :
    amount? field (figure ++ behind) = some (amount, behind) := by
  cases h with
  | bare hdigits hne hwidth hamount =>
    have hmore : more (some field.width) figure.length behind = [] := by
      refine more_eq_nil ?_
      by_cases hfull : figure.length < field.width
      · exact .inl (hends (.inr (.inr hfull)))
      · exact .inr ⟨field.width, rfl, by omega⟩
    rw [amount?_digits hdigits hne, digits?_append hdigits hne _ (by simpa using hwidth), hmore]
    simp [hamount]
  | plus hsign hdigits hne _ hamount =>
    have hread := digits?_append hdigits hne none nofun behind
    rw [more_eq_nil (.inl (hends (.inr (.inl rfl))))] at hread
    simp [amount?, hsign, signed?, hread, hamount]
  | minus hsign hdigits hne _ hamount =>
    have hread := digits?_append hdigits hne none nofun behind
    rw [more_eq_nil (.inl (hends (.inl rfl)))] at hread
    simp [amount?, hsign, signed?, hread, hamount]

/-- If digits follow that a figure would take, the number that is read is another one, unless it is
zero and the digits are zeros. -/
theorem amount?_of_runsOn (h : Figure field amount figure) (hruns : RunsOn field figure)
    (hdigit : ¬ EndsBefore behind) :
    ∃ read left, amount? field (figure ++ behind) = some (read, left) ∧
      (read = amount → amount = 0 ∧ behind.head? = some '0') := by
  cases h with
  | bare hdigits hne hwidth hamount =>
    obtain ⟨c, rest, rfl⟩ := List.exists_cons_of_ne_nil hne
    have hsigns := not_sign_of_isDigit (hdigits c List.mem_cons_self)
    have hroom : (c :: rest).length < field.width := by
      simpa [RunsOn, hsigns] using hruns
    obtain ⟨n, left, hread, hsame⟩ :=
      digits?_of_room hdigits hne (some field.width) (by simpa using hroom) hdigit
    refine ⟨n, left, by rw [amount?_digits hdigits hne, hread]; rfl, fun heq => ?_⟩
    obtain ⟨hzero, hhead⟩ := hsame (by omega)
    exact ⟨by omega, hhead⟩
  | plus hsign hdigits hne hzero hamount =>
    obtain ⟨n, left, hread, hsame⟩ := digits?_of_room hdigits hne none nofun hdigit
    refine ⟨n, left, by simp [amount?, hsign, signed?, hread], fun heq => ?_⟩
    have hnone := (hsame (by omega)).1
    omega
  | minus hsign hdigits hne hzero hamount =>
    obtain ⟨n, left, hread, hsame⟩ := digits?_of_room hdigits hne none nofun hdigit
    refine ⟨-n, left, by simp [amount?, hsign, signed?, hread], fun heq => ?_⟩
    have hnone := (hsame (by omega)).1
    omega

end Reading

end FormTree
