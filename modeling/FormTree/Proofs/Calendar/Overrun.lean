import FormTree.Proofs.Calendar.Reading

/-!
# Numbers read on into the digits behind them

A number that would be read on and has a digit behind it is read as another number, so the amounts
that are noted are not those of the date. Only zeros can be read past unnoticed
(`zeroOverrun_of_not_delimited`). But where that happens for one date, a digit stands behind the
same number for the date `early`, which has no zeros (`ZeroOverrun.not_delimited_early`). Numbers
are not read on in patterns that have neither a number nor a digit directly behind a number
(`delimited_of_separated`).
-/

namespace FormTree

open Numeral

namespace Writing

/-- At a date, a number of the items that would be read on is zero, and a zero is behind it. -/
def ZeroOverrun (date : Date) (items : List Item) : Prop :=
  ∃ field padding after text behind, .number field padding :: after <:+ items ∧
    number? date field padding = some text ∧ items? date after = some behind ∧
    RunsOn field (trimStart text) ∧ date.amount field = 0 ∧ behind.head? = some '0'

variable {date : Date} {item : Item} {items rest : List Item} {field : NumberField} {amount : Int}
  {figure text : List Char}

theorem ZeroOverrun.cons (h : ZeroOverrun date rest) (item : Item) :
    ZeroOverrun date (item :: rest) := by
  obtain ⟨field, padding, after, text, behind, hsuffix, hoverrun⟩ := h
  exact ⟨field, padding, after, text, behind, hsuffix.trans (List.suffix_cons item rest), hoverrun⟩

theorem delimited_nil (date : Date) : Delimited date [] := by
  intro field padding after text behind hsuffix
  nomatch List.suffix_nil.1 hsuffix

theorem Delimited.cons (h : Delimited date rest)
    (hitem : ∀ field padding text behind, item = .number field padding →
      number? date field padding = some text → items? date rest = some behind →
      RunsOn field (trimStart text) → EndsBefore behind) : Delimited date (item :: rest) := by
  intro field padding after text behind hsuffix
  rcases List.suffix_cons_iff.1 hsuffix with heq | hsuffix
  · obtain ⟨rfl, rfl⟩ := List.cons.inj heq
    exact hitem field padding text behind rfl
  · exact h field padding after text behind hsuffix

theorem Figure.one_lt_width (h : Figure field amount figure) (hruns : RunsOn field figure) :
    1 < field.width := by
  have hyear : field.hasSign = true → field.width = 4 := by
    cases field <;> decide
  cases h with
  | plus hsign => exact (hyear hsign).symm ▸ by decide
  | minus hsign => exact (hyear hsign).symm ▸ by decide
  | bare hdigits hne =>
    obtain ⟨c, digits, rfl⟩ := List.exists_cons_of_ne_nil hne
    have hsigns := not_sign_of_isDigit (hdigits c List.mem_cons_self)
    have hroom : (c :: digits).length < field.width := by
      simpa [RunsOn, hsigns] using hruns
    rw [List.length_cons] at hroom
    omega

end Writing

namespace Reading

open Writing

variable {date : Date} {items : List Item} {amounts noted : Amounts} {field : NumberField}
  {padding : Padding} {quantity : Quantity} {text left rest behind : List Char}

theorem quantity?_eq_amount (hquantity : field.quantity? = some quantity)
    (htold : date.IsToldBy quantity) (hwidth : 1 < field.width) :
    quantity ≠ .weekday ∧ date.quantity? quantity = some (date.amount field) := by
  cases field <;>
    simp only [NumberField.quantity?, Option.some.injEq, reduceCtorEq] at hquantity <;>
    subst hquantity
  case century => exact ⟨nofun, if_pos htold.1⟩
  case yearOfCentury => exact ⟨nofun, if_pos htold⟩
  case isoYearOfCentury => exact ⟨nofun, if_pos htold⟩
  case daysFromSunday => exact absurd hwidth (by decide)
  case daysFromMonday => exact absurd hwidth (by decide)
  all_goals exact ⟨nofun, rfl⟩

theorem amount_eq_zero_of_runsOn (hwritten : number? date field padding = some text)
    (htold : ∀ quantity ∈ field.quantity?, date.IsToldBy quantity)
    (hruns : RunsOn field (trimStart text)) (hdigit : ¬ EndsBefore behind)
    (hleft : UpToBlanks left (text ++ behind))
    (hread : item? (amounts, left) (.number field padding) = some (noted, rest))
    (hnoted : noted.AreOf date) : date.amount field = 0 ∧ behind.head? = some '0' := by
  have hcalendar := isCalendar_of_number? hwritten
  have hholds := (number_of_number? hwritten).holds fun hcentury => by
    subst hcentury
    exact htold .century rfl
  obtain ⟨figure, hfigure, htrim⟩ := hholds.exists_figure
  have htext : trimStart text = figure := by simpa using htrim []
  rw [htext] at hruns
  obtain ⟨read, left', hamount, hsame⟩ := amount?_of_runsOn hfigure hruns hdigit
  have hnumber := (numberField?_eq hcalendar amounts left).symm.trans hread
  rw [hleft.trimStart_eq, htrim, hamount, Option.bind_some] at hnumber
  obtain ⟨noted', hnote, heq⟩ := Option.map_eq_some_iff.1 hnumber
  obtain ⟨rfl, -⟩ := Prod.mk.inj heq
  obtain ⟨quantity, amount, hquantity, hadds, hplain⟩ := adds_of_noteNumber? hcalendar hnote
  obtain ⟨hweekday, hown⟩ :=
    quantity?_eq_amount hquantity (htold quantity hquantity) (hfigure.one_lt_width hruns)
  have hamount := hnoted (quantity, amount) ((hadds _).2 (.inr rfl))
  rw [hown, Option.some.injEq, hplain hweekday] at hamount
  exact hsame hamount.symm

/-- If items note nothing but amounts of the date that they were written for, a digit stands behind
a number that is read on only where both are zero. -/
theorem zeroOverrun_of_not_delimited (hwritten : Writing.items? date items = some text)
    (hproper : ∀ item ∈ items, item.IsProper)
    (htold : ∀ item ∈ items, ∀ quantity ∈ item.quantity?, date.IsToldBy quantity)
    (hleft : UpToBlanks left text)
    (hread : items.foldlM item? (amounts, left) = some (noted, rest)) (hnoted : noted.AreOf date)
    (hdelimited : ¬ Delimited date items) : ZeroOverrun date items := by
  induction items generalizing amounts text left with
  | nil => exact absurd (delimited_nil date) hdelimited
  | cons item items ih =>
    obtain ⟨hitem, hrest⟩ := List.forall_mem_cons.1 hproper
    obtain ⟨htoldItem, htoldRest⟩ := List.forall_mem_cons.1 htold
    obtain ⟨hwritableItem, hwritableRest⟩ := List.forall_mem_cons.1 (isWritable_of_items? hwritten)
    obtain ⟨own, behind, hown, hbehind, rfl⟩ := items?_cons_eq_some.1 hwritten
    rw [List.foldlM_cons] at hread
    obtain ⟨⟨after, left'⟩, hfirst, hlast⟩ := Option.bind_eq_some_iff.1 hread
    have hafter : after.AreOf date := fun entry hentry =>
      hnoted entry ((foldlM_mentions hwritableRest hlast).1 hentry)
    -- Up to the first number with a digit behind it, all items read what they have written.
    by_cases hends : ∀ field padding, item = .number field padding →
        RunsOn field (trimStart own) → EndsBefore behind
    · have hamounts : amounts.AreOf date := by
        rcases item?_adds hwritableItem hfirst with ⟨-, rfl⟩ | ⟨quantity, amount, -, hadds⟩
        · exact hafter
        · exact fun entry hentry => hafter entry ((hadds entry).2 (.inl hentry))
      obtain ⟨noted', behind', hsame, -, hleft'⟩ :=
        item?_of_written hown hitem htoldItem hends hamounts hleft
      obtain ⟨rfl, rfl⟩ := Prod.mk.inj (Option.some.inj (hfirst.symm.trans hsame))
      refine (ih hbehind hrest htoldRest hleft' hlast fun hrestDelimited => hdelimited ?_).cons item
      refine hrestDelimited.cons ?_
      rintro field padding text' behind' rfl htext' hbehind'
      obtain rfl := Option.some.inj (htext'.symm.trans hown)
      obtain rfl := Option.some.inj (hbehind'.symm.trans hbehind)
      exact hends field padding rfl
    · push Not at hends
      obtain ⟨field, padding, rfl, hruns, hdigit⟩ := hends
      have hzero := amount_eq_zero_of_runsOn hown htoldItem hruns hdigit hleft hfirst hafter
      exact ⟨field, padding, items, own, behind, List.suffix_rfl, hown, hbehind, hruns, hzero⟩

end Reading

/-! ### A date without zeros -/

/-- A date of which no number is zero and none fills its field, unless it has one digit. -/
def Date.early : Date := ⟨105, 1, 8, by decide⟩

theorem Date.amount_early_ne_zero {field : NumberField} (h : field.IsCalendar) :
    Date.early.amount field ≠ 0 := by
  cases field <;> first | decide | exact h.elim

namespace Writing

variable {date : Date} {item : Item} {items : List Item} {field : NumberField} {padding : Padding}
  {text behind : List Char} {n : Nat}

/-! #### Zeros -/

theorem not_runsOn_zeros (hwritten : number? date field .zero = some text)
    (hzero : date.amount field = 0) : ¬ RunsOn field (trimStart text) := by
  rw [RunsOn]
  cases number_of_number? hwritten with
  | year hwidth =>
    rw [hwidth, hzero]
    decide
  | three hwidth hn _ hamount => omega
  | two hwidth _ htold =>
    have hcentury : field = .century → 0 ≤ date.year ∧ date.year ≤ 9999 := by
      rintro rfl
      rw [Date.amount] at hzero
      omega
    obtain rfl := Int.natCast_eq_zero.1 ((htold hcentury).2.trans hzero)
    rw [hwidth]
    decide
  | one hwidth _ hamount =>
    obtain rfl := Int.natCast_eq_zero.1 (hamount.trans hzero)
    rw [hwidth]
    decide

/-- A zero that does not fill its field is not filled up with zeros, and then the number of `early`
does not fill the field either. -/
theorem runsOn_early (hwritten : number? date field padding = some text)
    (hruns : RunsOn field (trimStart text)) (hzero : date.amount field = 0) :
    ∃ text, number? .early field padding = some text ∧ RunsOn field (trimStart text) := by
  have hcalendar := isCalendar_of_number? hwritten
  cases padding with
  | zero => exact absurd hruns (not_runsOn_zeros hwritten hzero)
  | none =>
    cases field <;>
      first
        | exact hcalendar.elim
        | exact ⟨_, rfl, by rw [RunsOn]; decide⟩
        | exact absurd hruns (not_runsOn_zeros hwritten hzero)
  | space =>
    cases field <;>
      first
        | exact hcalendar.elim
        | exact ⟨_, rfl, by rw [RunsOn]; decide⟩
        | exact absurd hruns (not_runsOn_zeros hwritten hzero)

/-! #### Texts that begin with a zero -/

theorem digits_head_ne_zero (hn : n ≠ 0) : (digits n).head? ≠ some '0' := by
  rw [digits, Nat.toString_eq_repr, Nat.toList_repr]
  induction n using Nat.strong_induction_on with
  | _ n ih =>
    rcases Nat.lt_or_ge n 10 with hlt | hge
    · have hall : ∀ n < 10, n ≠ 0 → [n.digitChar].head? ≠ some '0' := by decide
      rw [Nat.toDigits_of_lt_base hlt]
      exact hall n hlt hn
    · rw [Nat.toDigits_of_base_le (by decide) hge,
        List.head?_append_of_ne_nil _ Nat.toDigits_ne_nil]
      exact ih (n / 10) (by omega) (by omega)

theorem blanks_digits_head (hn : n ≠ 0) (k : Nat) :
    (List.replicate k ' ' ++ digits n).head? ≠ some '0' := by
  cases k with
  | zero => exact digits_head_ne_zero hn
  | succ k => simp [List.replicate_succ]

theorem twoDigits_space_head (hn : n < 256) : (twoDigits .space n).head? ≠ some '0' := by
  have hall : ∀ tens < 26, tens ≠ 0 → digitChar tens ≠ '0' := by decide
  rw [twoDigits.eq_def]
  split
  · simp
  · next htens =>
    intro hhead
    exact hall (n / 10) (by omega) htens (Option.some.inj hhead)

theorem year_space_head (amount : Int) : (year .space amount).head? ≠ some '0' := by
  rw [year.eq_def]
  by_cases hsigned : amount < 0 ∨ 9999 < amount
  · simp only [if_pos hsigned]
    cases 4 - (digits amount.natAbs).length with
    | zero => split <;> simp
    | succ k => simp [List.replicate_succ]
  · simp only [if_neg hsigned, List.append_nil]
    rcases eq_or_ne amount.natAbs 0 with hzero | hne
    · rw [hzero]
      decide
    · exact blanks_digits_head hne _

theorem number?_space_head (hwritten : number? date field .space = some text)
    (hwidth : 1 < field.width) : text.head? ≠ some '0' := by
  cases number_of_number? hwritten with
  | year => exact year_space_head _
  | three _ hn => exact blanks_digits_head hn _
  | two _ hn => exact twoDigits_space_head hn
  | one hone => exact absurd hwidth hone.not_gt

theorem number?_early (hwritten : number? date field padding = some text)
    (hzero : text.head? = some '0') :
    ∃ c rest, number? .early field padding = some (c :: rest) ∧ c.isDigit = true := by
  have hcalendar := isCalendar_of_number? hwritten
  have hspace : padding = .space → ¬ 1 < field.width := by
    rintro rfl hwidth
    exact number?_space_head hwritten hwidth hzero
  cases padding with
  | zero => cases field <;> first | exact hcalendar.elim | exact ⟨_, _, rfl, by decide⟩
  | none => cases field <;> first | exact hcalendar.elim | exact ⟨_, _, rfl, by decide⟩
  | space =>
    cases field <;>
      first
        | exact hcalendar.elim
        | exact absurd (by decide) (hspace rfl)
        | exact ⟨_, _, rfl, by decide⟩

theorem twoDigits_ne_nil (padding : Padding) (n : Nat) : twoDigits padding n ≠ [] := by
  rw [twoDigits.eq_def]
  split
  · cases padding <;> exact List.cons_ne_nil _ _
  · exact List.cons_ne_nil _ _

theorem number?_ne_nil (hwritten : number? date field padding = some text) : text ≠ [] := by
  have hright : ∀ (left : List Char) (n : Nat), left ++ digits n ≠ [] := fun left n =>
    List.append_ne_nil_of_right_ne_nil left (toString_ne_nil n)
  cases number_of_number? hwritten with
  | year =>
    rw [year.eq_def]
    cases padding <;> exact hright _ _
  | three =>
    rw [threeDigits.eq_def]
    cases padding with
    | none => exact hright [] _
    | zero => exact hright _ _
    | space => exact hright _ _
  | two => exact twoDigits_ne_nil _ _
  | one => exact List.cons_ne_nil _ _

/-- The text of an item is not empty, and if it begins with a zero, that for `early` begins with a
digit. -/
theorem item?_early (hwritten : item? date item = some text) (hproper : item.IsProper) :
    ∃ c rest, text = c :: rest ∧
      (c = '0' → ∃ d rest, item? .early item = some (d :: rest) ∧ d.isDigit = true) := by
  cases item with
  | literal c =>
    obtain rfl : [c] = text := Option.some.inj hwritten
    exact ⟨c, [], rfl, fun hzero => ⟨c, [], rfl, hzero ▸ rfl⟩⟩
  | blank c =>
    obtain rfl : [c] = text := Option.some.inj hwritten
    refine ⟨c, [], rfl, ?_⟩
    rintro rfl
    exact absurd hproper (by decide)
  | number field padding =>
    obtain ⟨c, rest, rfl⟩ := List.exists_cons_of_ne_nil (number?_ne_nil hwritten)
    refine ⟨c, rest, rfl, ?_⟩
    rintro rfl
    exact number?_early hwritten rfl
  | name field =>
    obtain rfl : name date field = text := Option.some.inj hwritten
    obtain ⟨c, rest, htext, -, hdigit⟩ := Reading.exists_name_eq_cons date field
    refine ⟨c, rest, htext, ?_⟩
    rintro rfl
    exact absurd hdigit (by decide)
  | clock field => simp [item?] at hwritten
  | invalid => simp [item?] at hwritten

/-- Where a zero has a zero behind it for one date, the number of `early` has a digit behind it. -/
theorem ZeroOverrun.not_delimited_early (h : ZeroOverrun date items)
    (hproper : ∀ item ∈ items, item.IsProper) : ¬ Delimited .early items := by
  intro hdelimited
  obtain ⟨field, padding, after, text, behind, hsuffix, hwritten, hbehind, hruns, hzero, hhead⟩ := h
  obtain ⟨own, hown, hrunsOn⟩ := runsOn_early hwritten hruns hzero
  cases after with
  | nil =>
    obtain rfl : [] = behind := Option.some.inj hbehind
    nomatch hhead
  | cons next rest =>
    obtain ⟨own', behind', hown', hbehind', rfl⟩ := Reading.items?_cons_eq_some.1 hbehind
    have hmem : next ∈ items := hsuffix.subset (List.mem_cons_of_mem _ List.mem_cons_self)
    obtain ⟨c, left, rfl, hdigit⟩ := item?_early hown' (hproper next hmem)
    obtain ⟨d, text, htext, hd⟩ := hdigit (Option.some.inj hhead)
    obtain ⟨last, hlast⟩ := exists_items? .early (isWritable_of_items? hbehind')
    have hends := hdelimited field padding _ own _ hsuffix hown
      (Reading.items?_cons_eq_some.2 ⟨_, _, htext, hlast, rfl⟩) hrunsOn
    exact absurd (hends d rfl) (by simp [hd])

end Writing

/-! ### Separated numbers -/

namespace Pattern

/-- What the items write does not begin with a digit. -/
def startsPlain : List Item → Bool
  | [] => true
  | .literal c :: _ => !c.isDigit
  | .blank _ :: _ => true
  | .name _ :: _ => true
  | _ => false

/-- No number is directly followed by a digit or another number. -/
def separated : List Item → Bool
  | [] => true
  | .number _ _ :: rest => startsPlain rest && separated rest
  | _ :: rest => separated rest

end Pattern

namespace Writing

variable {date : Date} {items : List Item} {text : List Char}

theorem endsBefore_of_startsPlain (hplain : Pattern.startsPlain items = true)
    (hproper : ∀ item ∈ items, item.IsProper) (hwritten : items? date items = some text) :
    EndsBefore text := by
  cases items with
  | nil =>
    obtain rfl : [] = text := Option.some.inj hwritten
    simp [EndsBefore]
  | cons item rest =>
    obtain ⟨own, behind, hown, -, rfl⟩ := Reading.items?_cons_eq_some.1 hwritten
    have hitem := hproper item List.mem_cons_self
    cases item with
    | literal c =>
      obtain rfl : [c] = own := Option.some.inj hown
      simpa [EndsBefore, Pattern.startsPlain] using hplain
    | blank c =>
      obtain rfl : [c] = own := Option.some.inj hown
      have hc : c.isDigit = false := by
        by_contra hdigit
        have hblank := not_isBlank_of_isDigit (Bool.eq_true_of_not_eq_false hdigit)
        exact Bool.eq_false_iff.1 hblank hitem
      simpa [EndsBefore] using hc
    | name field =>
      obtain rfl : name date field = own := Option.some.inj hown
      obtain ⟨c, left, hname, -, hdigit⟩ := Reading.exists_name_eq_cons date field
      simpa [EndsBefore, hname] using hdigit
    | number field padding => simp [Pattern.startsPlain] at hplain
    | clock field => simp [item?] at hown
    | invalid => simp [item?] at hown

theorem delimited_of_separated (hseparated : Pattern.separated items = true)
    (hproper : ∀ item ∈ items, item.IsProper) : Delimited date items := by
  induction items with
  | nil => exact delimited_nil date
  | cons item rest ih =>
    have hrest := (List.forall_mem_cons.1 hproper).2
    cases item with
    | number field padding =>
      rw [Pattern.separated, Bool.and_eq_true] at hseparated
      exact (ih hseparated.2 hrest).cons fun _ _ _ behind _ _ hbehind _ =>
        endsBefore_of_startsPlain hseparated.1 hrest hbehind
    | _ => exact (ih hseparated hrest).cons nofun

end Writing

end FormTree
