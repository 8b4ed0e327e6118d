import FormTree.Proofs.Number.Numeral
import FormTree.Widget

/-!
# Numbers that are typed

What an integer widget stores for a decimal is the nearest binary64 number, if that is an integer in
the range of a signed word (`coerce_integer_eq_ok_iff`). The number that was typed is rounded before
it is looked at, so what is stored can be another number, and a fraction part can be lost: this is
so whenever the number is not in the format and what it is rounded to is accepted
(`typed_integer_is_exact_iff`).

An integer in plain notation is not rounded if a signed or an unsigned word holds it. Otherwise it
is taken for a decimal, and what it is rounded to is not in the range of a signed word, however near
its end the integer is (`typed_integer_is_kept_iff`).
-/

namespace FormTree

open Numeral

variable {raw : String} {kind : InputKind} {text : List Char} {q : ℚ} {n : ℤ} {v : Value}

theorem coerce_ok_or_invalidNumber (raw : String) (kind : InputKind) :
    (∃ v, coerce raw kind = .ok v) ∨ coerce raw kind = .error (.invalidNumber raw) := by
  unfold coerce
  split
  · exact .inl ⟨_, rfl⟩
  · split
    · exact .inl ⟨_, rfl⟩
    · split
      · exact .inl ⟨_, rfl⟩
      · exact .inr rfl

theorem numberOf?_integer {x : Binary64} {n : Number} : numberOf? .integer x = some n ↔
    ∃ i : ℤ, x.toRat = i ∧ (-0x8000000000000000 < i ∧ i < 0x8000000000000000) ∧ n = .int i := by
  rw [numberOf?, if_pos rfl]
  split
  · next i hi =>
    rw [Option.ite_none_right_eq_some, Option.some.injEq]
    constructor
    · rintro ⟨hrange, rfl⟩
      exact ⟨i, Binary64.toInt?_eq_some_iff.1 hi, hrange, rfl⟩
    · rintro ⟨j, hj, hrange, rfl⟩
      obtain rfl := Option.some.inj (hi.symm.trans (Binary64.toInt?_eq_some_iff.2 hj))
      exact ⟨hrange, rfl⟩
  · next hnone =>
    refine iff_of_false nofun ?_
    rintro ⟨i, hi, -⟩
    exact Option.some_ne_none i ((Binary64.toInt?_eq_some_iff.2 hi).symm.trans hnone)

theorem typedNumber?_of_not_spells (h : ∀ i, ¬ Spells text i) (kind : InputKind) :
    typedNumber? kind text =
      (decimal? text).bind fun amount => amount.toBinary64?.bind (numberOf? kind) := by
  have hnone : integer? text = none :=
    Option.eq_none_iff_forall_ne_some.2 fun i hi => h i (integer?_eq_some_iff.1 hi)
  rw [typedNumber?, hnone]
  rfl

/-- A numeric widget stores the number that was typed, and refuses what is none. -/
theorem coerce_numeric (hraw : raw ≠ "") (hkind : kind.isNumeric = true) :
    coerce raw kind = match typedNumber? kind (trim raw.toList) with
      | some n => .ok (.num n)
      | none => .error (.invalidNumber raw) := by
  rw [coerce, if_neg (mt String.isEmpty_iff.1 hraw), hkind]
  rfl

theorem coerce_numeric_eq_ok (hraw : raw ≠ "") (hkind : kind.isNumeric = true) :
    coerce raw kind = .ok v ↔ ∃ n, typedNumber? kind (trim raw.toList) = some n ∧ v = .num n := by
  rw [coerce_numeric hraw hkind]
  cases typedNumber? kind (trim raw.toList) with
  | none => simp
  | some n => simp [eq_comm]

/-! ### Decimals -/

theorem coerce_integer_of_decimal? {amount : Amount} (hplain : ∀ i, ¬ Spells (trim raw.toList) i)
    (hamount : decimal? (trim raw.toList) = some amount) : coerce raw .integer = .ok v ↔
      ∃ x n, amount.toBinary64? = some x ∧ numberOf? .integer x = some n ∧ v = .num n := by
  have hraw : raw ≠ "" := by
    rintro rfl
    exact Option.some_ne_none amount hamount.symm
  have htyped : typedNumber? .integer (trim raw.toList) =
      amount.toBinary64?.bind (numberOf? .integer) := by
    rw [typedNumber?_of_not_spells hplain, hamount, Option.bind_some]
  rw [coerce_numeric_eq_ok hraw rfl, htyped]
  simp only [Option.bind_eq_some_iff]
  constructor
  · rintro ⟨n, ⟨x, hx, hn⟩, hv⟩
    exact ⟨x, n, hx, hn, hv⟩
  · rintro ⟨x, n, hx, hn, hv⟩
    exact ⟨n, ⟨x, hx, hn⟩, hv⟩

theorem Binary64.Rounds.le_abs {x : Binary64} (hx : x.Rounds q)
    (hq : 0x8000000000000000 ≤ |q|) : 0x8000000000000000 ≤ |x.toRat| := by
  let bound : Binary64 := ⟨false, 0x10000000000000, 11, by decide⟩
  have hbound : |bound.toRat| = 0x8000000000000000 := by
    rw [Binary64.abs_toRat]
    norm_num [bound]
  rw [← hbound] at hq ⊢
  exact hx.abs_le hq

theorem numberOf?_integer_eq_none {x : Binary64} (hx : 0x8000000000000000 ≤ |x.toRat|) :
    numberOf? .integer x = none := by
  refine Option.eq_none_iff_forall_ne_some.2 fun m hm => ?_
  obtain ⟨i, hi, hrange, -⟩ := numberOf?_integer.1 hm
  rw [hi, le_abs] at hx
  rcases hx with hle | hle
  · have hge : (0x8000000000000000 : ℤ) ≤ i := by exact_mod_cast hle
    omega
  · have hge : (0x8000000000000000 : ℤ) ≤ -i := by exact_mod_cast hle
    omega

theorem exists_toBinary64? {amount : Amount} {x : Binary64} {i : ℤ} (hx : x.Rounds amount.toRat)
    (hi : x.toRat = i) (hrange : -0x8000000000000000 < i ∧ i < 0x8000000000000000) :
    ∃ y, amount.toBinary64? = some y ∧ y.toRat = i := by
  cases hamount : amount.toBinary64? with
  | some y => exact ⟨y, rfl, ((Amount.rounds hamount).unique hx).trans hi⟩
  | none =>
    exfalso
    have hlarge : (0x8000000000000000 : ℚ) ≤ |amount.toRat| := by
      have hbeyond := Binary64.le_of_ofDecimal?_eq_none hamount
      rw [Amount.toRat, abs_mul, Binary64.abs_factor, one_mul, abs_of_nonneg (by positivity)]
      calc (0x8000000000000000 : ℚ) = 2 ^ 63 := by norm_num
        _ ≤ 2 ^ 1023 := pow_le_pow_right₀ one_le_two (by decide)
        _ ≤ _ := hbeyond
    have hnone := numberOf?_integer_eq_none (hx.le_abs hlarge)
    exact Option.some_ne_none _ ((numberOf?_integer.2 ⟨i, hi, hrange, rfl⟩).symm.trans hnone)

/-- An integer widget stores the nearest binary64 number, if it is an integer in the range of a
signed word. -/
theorem coerce_integer_eq_ok_iff (hplain : ∀ i, ¬ Spells (trim raw.toList) i)
    (hdenotes : Denotes (trim raw.toList) q) : coerce raw .integer = .ok v ↔
      ∃ (x : Binary64) (i : ℤ), x.Rounds q ∧ x.toRat = i ∧
        (-0x8000000000000000 < i ∧ i < 0x8000000000000000) ∧ v = .num (.int i) := by
  obtain ⟨amount, hamount, rfl⟩ := hdenotes.exists_amount
  rw [coerce_integer_of_decimal? hplain hamount]
  constructor
  · rintro ⟨x, n, hx, hn, rfl⟩
    obtain ⟨i, hi, hrange, rfl⟩ := numberOf?_integer.1 hn
    exact ⟨x, i, Amount.rounds hx, hi, hrange, rfl⟩
  · rintro ⟨x, i, hx, hi, hrange, rfl⟩
    obtain ⟨y, hy, hvalue⟩ := exists_toBinary64? hx hi hrange
    exact ⟨y, .int i, hy, numberOf?_integer.2 ⟨i, hvalue, hrange, rfl⟩, rfl⟩

/-- An integer widget is true to a decimal, storing the number that was typed and refusing one with
a fraction part, if the number is in the format of binary64, or else if what it is rounded to is not
accepted; otherwise it is not. -/
theorem typed_integer_is_exact_iff (hplain : ∀ i, ¬ Spells (trim raw.toList) i)
    (hdenotes : Denotes (trim raw.toList) q) :
    ((∀ v, coerce raw .integer = .ok v → ∃ i : ℤ, v = .num (.int i) ∧ (i : ℚ) = q) ∧
        ((∀ i : ℤ, (i : ℚ) ≠ q) → coerce raw .integer = .error (.invalidNumber raw))) ↔
      (∃ x : Binary64, x.toRat = q) ∨
        ∀ (x : Binary64) (i : ℤ), x.Rounds q → x.toRat = i →
          ¬ (-0x8000000000000000 < i ∧ i < 0x8000000000000000) := by
  have haccepts := fun v => @coerce_integer_eq_ok_iff raw q v hplain hdenotes
  constructor
  · rintro ⟨hexact, -⟩
    rcases coerce_ok_or_invalidNumber raw .integer with ⟨v, hv⟩ | herror
    · obtain ⟨x, i, hx, hi, -, rfl⟩ := (haccepts v).1 hv
      obtain ⟨j, hj, rfl⟩ := hexact _ hv
      obtain rfl : i = j := by injection hj with hj; injection hj
      exact .inl ⟨x, hi⟩
    · refine .inr fun x i hx hi hrange => ?_
      have hok := (haccepts _).2 ⟨x, i, hx, hi, hrange, rfl⟩
      nomatch herror.symm.trans hok
  · intro hcases
    have hexact : ∀ v, coerce raw .integer = .ok v →
        ∃ i : ℤ, v = .num (.int i) ∧ (i : ℚ) = q := by
      intro v hv
      obtain ⟨x, i, hx, hi, hrange, rfl⟩ := (haccepts v).1 hv
      rcases hcases with ⟨y, rfl⟩ | hnone
      · exact ⟨i, rfl, hi.symm.trans (hx.unique y.rounds_toRat)⟩
      · exact absurd hrange (hnone x i hx hi)
    refine ⟨hexact, fun hfraction => ?_⟩
    rcases coerce_ok_or_invalidNumber raw .integer with ⟨v, hv⟩ | herror
    · obtain ⟨i, -, hi⟩ := hexact v hv
      exact absurd hi (hfraction i)
    · exact herror

theorem not_spells_of_integer? (h : integer? text = none) (i : ℤ) : ¬ Spells text i := fun hi =>
  Option.some_ne_none i ((integer?_eq_some_iff.2 hi).symm.trans h)

theorem denotes_of_amount (amount : Amount) (h : decimal? text = some amount)
    (hq : amount.toRat = q) : Denotes text q := hq ▸ denotes_of_decimal? h

/-- A whole number with a point is stored as the integer that it is. -/
theorem typed_whole_number_is_exact :
    (∀ i, ¬ Spells (trim "3.0".toList) i) ∧ Denotes (trim "3.0".toList) 3 ∧
      (∀ v, coerce "3.0" .integer = .ok v → ∃ i : ℤ, v = .num (.int i) ∧ (i : ℚ) = 3) ∧
      coerce "3.0" .integer = .ok (.num (.int 3)) := by
  have hplain : ∀ i, ¬ Spells (trim "3.0".toList) i := not_spells_of_integer? (by decide)
  have hdenotes : Denotes (trim "3.0".toList) 3 :=
    denotes_of_amount (.mk false 30 (-1)) (by decide) (by norm_num [Amount.toRat, Binary64.factor])
  have hformat : ∃ x : Binary64, x.toRat = 3 :=
    ⟨⟨false, 0x18000000000000, -51, by decide⟩, by norm_num [Binary64.toRat, Binary64.factor]⟩
  exact ⟨hplain, hdenotes, ((typed_integer_is_exact_iff hplain hdenotes).2 (.inl hformat)).1, rfl⟩

/-- A small fraction part is lost, and so is the last place of a large number. -/
theorem typed_decimals_are_rounded :
    ((∀ i, ¬ Spells (trim "1.00000000000000000001".toList) i) ∧
        Denotes (trim "1.00000000000000000001".toList) (1 + 1 / 10 ^ 20) ∧
        (∀ i : ℤ, (i : ℚ) ≠ 1 + 1 / 10 ^ 20) ∧
        coerce "1.00000000000000000001" .integer = .ok (.num (.int 1))) ∧
      (∀ i, ¬ Spells (trim "9007199254740993.0".toList) i) ∧
        Denotes (trim "9007199254740993.0".toList) 9007199254740993 ∧
        coerce "9007199254740993.0" .integer = .ok (.num (.int 9007199254740992)) := by
  refine ⟨⟨not_spells_of_integer? (by decide), ?_, ?_, rfl⟩, not_spells_of_integer? (by decide), ?_,
    rfl⟩
  · exact denotes_of_amount (.mk false 100000000000000000001 (-20)) (by decide)
      (by norm_num [Amount.toRat, Binary64.factor])
  · intro i hi
    have hscaled : (i : ℚ) * 10 ^ 20 = 10 ^ 20 + 1 := by
      rw [hi]
      norm_num
    have hint : i * 10 ^ 20 = 10 ^ 20 + 1 := by exact_mod_cast hscaled
    omega
  · exact denotes_of_amount (.mk false 90071992547409930 (-1)) (by decide)
      (by norm_num [Amount.toRat, Binary64.factor])

/-! ### Integers -/

theorem typedNumber?_of_spells (h : Spells text n) (kind : InputKind) :
    typedNumber? kind text = if Number.InWordRange n then some (.int n) else
      (decimal? text).bind fun amount => amount.toBinary64?.bind (numberOf? kind) := by
  rw [typedNumber?, integer?_eq_some_iff.2 h]
  by_cases hrange : Number.InWordRange n
  · rw [if_pos hrange, Option.filter_some, if_pos (decide_eq_true hrange)]
  · rw [if_neg hrange, Option.filter_some, if_neg (by simpa using hrange)]

theorem ne_empty_of_spells (h : Spells (trim raw.toList) n) : raw ≠ "" := by
  rintro rfl
  exact h.ne_nil rfl

theorem coerce_of_inWordRange (h : Spells (trim raw.toList) n) (hrange : Number.InWordRange n)
    (hkind : kind.isNumeric = true) : coerce raw kind = .ok (.num (.int n)) := by
  rw [coerce_numeric (ne_empty_of_spells h) hkind, typedNumber?_of_spells h, if_pos hrange]

theorem coerce_of_not_inWordRange (h : Spells (trim raw.toList) n)
    (hrange : ¬ Number.InWordRange n) : coerce raw .integer = .error (.invalidNumber raw) ∧
      ∀ v, coerce raw .number = .ok v → ∃ x : Binary64, x.Rounds n ∧ v = .num (.float x) := by
  obtain ⟨amount, hamount, hvalue⟩ := h.denotes.exists_amount
  have htyped : ∀ kind, typedNumber? kind (trim raw.toList) =
      amount.toBinary64?.bind (numberOf? kind) := fun kind => by
    rw [typedNumber?_of_spells h, if_neg hrange, hamount, Option.bind_some]
  have hraw := ne_empty_of_spells h
  rw [coerce_numeric hraw rfl, coerce_numeric hraw rfl, htyped, htyped]
  cases hround : amount.toBinary64? with
  | none => exact ⟨rfl, nofun⟩
  | some x =>
    have hx : x.Rounds n := hvalue ▸ Amount.rounds hround
    have hlarge : (0x8000000000000000 : ℤ) ≤ |n| := by
      rw [Number.InWordRange] at hrange
      rw [le_abs]
      omega
    rw [Option.bind_some, Option.bind_some,
      numberOf?_integer_eq_none (hx.le_abs (by exact_mod_cast hlarge))]
    exact ⟨rfl, fun v hv => ⟨x, hx, (Except.ok.inj hv).symm⟩⟩

/-- A whole number in plain notation is kept exactly if a signed or an unsigned word of 64 bits
holds it, whatever blanks stand around it and whatever zeros in front. One that no word holds is
refused by an integer widget, with the text as it was typed; any other numeric widget stores no
integer for it, but at most the binary64 number that it is rounded to. -/
theorem typed_integer_is_kept_iff (h : Spells (trim raw.toList) n) :
    ((∃ v, coerce raw .integer = .ok v) ↔ -2 ^ 63 ≤ n ∧ n < 2 ^ 64) ∧
      (-2 ^ 63 ≤ n ∧ n < 2 ^ 64 → coerce raw .integer = .ok (.num (.int n)) ∧
        coerce raw .number = .ok (.num (.int n))) ∧
      (¬ (-2 ^ 63 ≤ n ∧ n < 2 ^ 64) → coerce raw .integer = .error (.invalidNumber raw) ∧
        ∀ v, coerce raw .number = .ok v → ∃ x : Binary64, x.Rounds n ∧ v = .num (.float x)) := by
  refine ⟨⟨fun ⟨v, hv⟩ => ?_, fun hrange => ⟨_, coerce_of_inWordRange h hrange rfl⟩⟩,
    fun hrange => ⟨coerce_of_inWordRange h hrange rfl, coerce_of_inWordRange h hrange rfl⟩,
    coerce_of_not_inWordRange h⟩
  by_contra hrange
  nomatch hv.symm.trans (coerce_of_not_inWordRange h hrange).1

/-- The first integer below the range is refused, and the last one in it is kept. -/
theorem integers_at_the_ends_of_the_range :
    (Spells (trim "-9223372036854775809".toList) (-2 ^ 63 - 1) ∧
        coerce "-9223372036854775809" .integer = .error (.invalidNumber "-9223372036854775809")) ∧
      Spells (trim " +018446744073709551615\n".toList) (2 ^ 64 - 1) ∧
        coerce " +018446744073709551615\n" .integer = .ok (.num (.int (2 ^ 64 - 1))) := by
  have hbelow : Spells (trim "-9223372036854775809".toList) (-2 ^ 63 - 1) :=
    integer?_eq_some_iff.1 (by decide)
  have hlast : Spells (trim " +018446744073709551615\n".toList) (2 ^ 64 - 1) :=
    integer?_eq_some_iff.1 (by decide)
  exact ⟨⟨hbelow, ((typed_integer_is_kept_iff hbelow).2.2 (by decide)).1⟩, hlast,
    ((typed_integer_is_kept_iff hlast).2.1 (by decide)).1⟩

end FormTree
