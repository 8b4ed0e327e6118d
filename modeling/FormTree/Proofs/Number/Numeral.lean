import FormTree.Number.Numeral
import FormTree.Proofs.Number.Rounding
import Mathlib.Data.List.TakeWhile

/-!
# What typed numerals denote

The notation of numerals, apart from how they are read: an integer is digits with an optional sign
(`Spells`), and a decimal has a whole part, a fraction part and a power of ten, of which the power
and one of the other two can be missing (`Denotes`). Every such text is read, and as the number that
it denotes (`integer?_eq_some_iff`, `Denotes.exists_amount`).
-/

namespace FormTree

namespace Numeral

variable {text digits : List Char} {negative : Bool} {i : ℤ} {q : ℚ}

/-! ### The notation -/

/-- A sign is written, or left out. -/
inductive Signed : Bool → List Char → Prop where
  | bare : Signed false []
  | plus : Signed false ['+']
  | minus : Signed true ['-']

def AllDigits (text : List Char) : Prop := ∀ c ∈ text, c.isDigit = true

/-- The text is an integer in plain notation. -/
def Spells (text : List Char) (i : ℤ) : Prop :=
  ∃ sign negative digits, text = sign ++ digits ∧ Signed negative sign ∧ AllDigits digits ∧
    digits ≠ [] ∧ i = if negative then -(Digits.number digits : ℤ) else Digits.number digits

/-- A fraction part with its digits. -/
inductive FractionPart : List Char → List Char → Prop where
  | bare : FractionPart [] []
  | pointed {digits : List Char} : AllDigits digits → FractionPart ('.' :: digits) digits

/-- A power of ten. -/
inductive PowerPart : List Char → ℤ → Prop where
  | bare : PowerPart [] 0
  | written {c : Char} {text : List Char} {i : ℤ} :
    c = 'e' ∨ c = 'E' → Spells text i → PowerPart (c :: text) i

/-- The text is a decimal, and this is the number that it denotes. -/
def Denotes (text : List Char) (q : ℚ) : Prop :=
  ∃ sign negative whole point fraction exponent power,
    text = sign ++ whole ++ point ++ exponent ∧ Signed negative sign ∧ AllDigits whole ∧
    FractionPart point fraction ∧ (whole ≠ [] ∨ fraction ≠ []) ∧ PowerPart exponent power ∧
    q = Binary64.factor negative *
      ((Digits.number whole + Digits.number fraction / 10 ^ fraction.length) * 10 ^ power)

/-- The exact amount. -/
def Amount.toRat (amount : Amount) : ℚ :=
  Binary64.factor amount.negative * (amount.digits * 10 ^ amount.scale)

theorem Amount.rounds {amount : Amount} {x : Binary64} (h : amount.toBinary64? = some x) :
    x.Rounds amount.toRat := Binary64.rounds_of_ofDecimal? h

/-! ### Signs -/

theorem splitSign_append {sign : List Char} (hsign : Signed negative sign)
    (hrest : ∀ c ∈ text.head?, c ≠ '-' ∧ c ≠ '+') :
    splitSign (sign ++ text) = (negative, text) := by
  cases hsign with
  | plus => rfl
  | minus => rfl
  | bare =>
    cases text with
    | nil => rfl
    | cons c rest =>
      obtain ⟨hminus, hplus⟩ := hrest c rfl
      rw [List.nil_append, splitSign]
      · exact fun _ h => hminus (List.cons.inj h).1
      · exact fun _ h => hplus (List.cons.inj h).1

theorem exists_sign (text : List Char) :
    ∃ sign, text = sign ++ (splitSign text).2 ∧ Signed (splitSign text).1 sign := by
  unfold splitSign
  split
  · exact ⟨['-'], rfl, .minus⟩
  · exact ⟨['+'], rfl, .plus⟩
  · exact ⟨[], rfl, .bare⟩

theorem not_sign_of_isDigit {c : Char} (h : c.isDigit = true) : c ≠ '-' ∧ c ≠ '+' := by
  constructor <;> rintro rfl <;> exact absurd h (by decide)

/-! ### Integers -/

theorem integer?_eq (text : List Char) : integer? text =
    if (splitSign text).2.isEmpty ∨ !(splitSign text).2.all Char.isDigit then none
    else some (if (splitSign text).1 then -(Digits.number (splitSign text).2 : ℤ)
      else Digits.number (splitSign text).2) := rfl

theorem allDigits_iff : (¬ (digits.isEmpty ∨ !digits.all Char.isDigit)) ↔
    digits ≠ [] ∧ AllDigits digits := by
  rw [not_or, List.isEmpty_iff, Bool.not_eq_true', Bool.not_eq_false, List.all_eq_true]
  rfl

theorem integer?_eq_some_iff : integer? text = some i ↔ Spells text i := by
  rw [integer?_eq, Option.ite_none_left_eq_some, allDigits_iff, Option.some.injEq]
  constructor
  · rintro ⟨⟨hne, hall⟩, hi⟩
    obtain ⟨sign, htext, hsign⟩ := exists_sign text
    exact ⟨sign, _, _, htext, hsign, hall, hne, hi.symm⟩
  · rintro ⟨sign, negative, digits, rfl, hsign, hall, hne, hi⟩
    have hsplit : splitSign (sign ++ digits) = (negative, digits) :=
      splitSign_append hsign fun c hc => not_sign_of_isDigit (hall c (List.mem_of_mem_head? hc))
    rw [hsplit]
    exact ⟨⟨hne, hall⟩, hi.symm⟩

/-! ### The parts of a decimal -/

theorem power?_eq_some_iff : power? text = some i ↔ PowerPart text i := by
  cases text with
  | nil =>
    rw [power?, Option.some.injEq]
    constructor
    · rintro rfl
      exact .bare
    · rintro ⟨⟩
      rfl
  | cons c rest =>
    rw [power?, Option.ite_none_right_eq_some, integer?_eq_some_iff]
    constructor
    · rintro ⟨hc, hrest⟩
      exact .written hc hrest
    · rintro (_ | ⟨hc, hrest⟩)
      exact ⟨hc, hrest⟩

/-- The digits end before the text. -/
def EndsBefore (text : List Char) : Prop := ∀ c ∈ text.head?, c.isDigit = false

theorem takeWhile_append (h : AllDigits digits) (hrest : EndsBefore text) :
    (digits ++ text).takeWhile Char.isDigit = digits ∧
      (digits ++ text).dropWhile Char.isDigit = text := by
  rw [List.takeWhile_append_of_pos h, List.dropWhile_append_of_pos h]
  cases text with
  | nil => exact ⟨List.append_nil digits, rfl⟩
  | cons c rest =>
    have hc : ¬ c.isDigit = true := by
      rw [hrest c rfl]
      exact Bool.false_ne_true
    rw [List.takeWhile_cons_of_neg hc, List.dropWhile_cons_of_neg hc, List.append_nil]
    exact ⟨rfl, rfl⟩

theorem allDigits_takeWhile (text : List Char) : AllDigits (text.takeWhile Char.isDigit) :=
  fun _ hc => List.mem_takeWhile_imp hc

theorem PowerPart.endsBefore (h : PowerPart text i) : EndsBefore text ∧ text.head? ≠ some '.' := by
  cases h with
  | bare => exact ⟨nofun, nofun⟩
  | written hc _ =>
    refine ⟨fun first hfirst => ?_, fun hpoint => ?_⟩
    · obtain rfl := Option.some.inj hfirst
      rcases hc with rfl | rfl <;> rfl
    · obtain rfl := Option.some.inj hpoint
      exact absurd hc (by decide)

/-- The digits after a point, and the text after them. -/
def splitFraction (text : List Char) : List Char × List Char :=
  match text with
  | '.' :: rest => (rest.takeWhile Char.isDigit, rest.dropWhile Char.isDigit)
  | rest => ([], rest)

theorem splitFraction_append {point fraction exponent : List Char}
    (h : FractionPart point fraction) (hrest : EndsBefore exponent)
    (hpoint : exponent.head? ≠ some '.') :
    splitFraction (point ++ exponent) = (fraction, exponent) := by
  cases h with
  | bare =>
    rw [List.nil_append, splitFraction]
    rintro rest rfl
    exact hpoint rfl
  | pointed hdigits =>
    obtain ⟨htake, hdrop⟩ := takeWhile_append hdigits hrest
    rw [List.cons_append, splitFraction, htake, hdrop]

theorem exists_point (text : List Char) : ∃ point, text = point ++ (splitFraction text).2 ∧
    FractionPart point (splitFraction text).1 := by
  unfold splitFraction
  split
  · next rest =>
    refine ⟨'.' :: rest.takeWhile Char.isDigit, ?_, .pointed (allDigits_takeWhile rest)⟩
    rw [List.cons_append, List.takeWhile_append_dropWhile]
  · exact ⟨[], rfl, .bare⟩

theorem FractionPart.endsBefore {point fraction exponent : List Char}
    (h : FractionPart point fraction) (hrest : EndsBefore exponent) :
    EndsBefore (point ++ exponent) := by
  cases h with
  | bare => exact hrest
  | pointed _ =>
    intro c hc
    obtain rfl := Option.some.inj hc
    rfl

/-! ### Decimals -/

theorem decimal?_eq (text : List Char) : decimal? text =
    let body := (splitSign text).2
    let whole := body.takeWhile Char.isDigit
    let parts := splitFraction (body.dropWhile Char.isDigit)
    if whole.isEmpty ∧ parts.1.isEmpty then none
    else (power? parts.2).map fun power =>
      ⟨(splitSign text).1, Digits.number (whole ++ parts.1), power - (parts.1.length : ℤ)⟩ := rfl

theorem not_isEmpty_iff {whole fraction : List Char} :
    ¬ (whole.isEmpty = true ∧ fraction.isEmpty = true) ↔ whole ≠ [] ∨ fraction ≠ [] := by
  rw [List.isEmpty_iff, List.isEmpty_iff, not_and_or]

/-- The digits of both parts are those of one number, and the point counts into the power. -/
theorem toRat_digits (negative : Bool) (whole fraction : List Char) (power : ℤ) :
    (Amount.mk negative (Digits.number (whole ++ fraction))
        (power - (fraction.length : ℤ))).toRat =
      Binary64.factor negative *
        ((Digits.number whole + Digits.number fraction / 10 ^ fraction.length) * 10 ^ power) := by
  have hten : (10 : ℚ) ≠ 0 := by norm_num
  rw [Amount.toRat, Digits.number_append, zpow_sub₀ hten, zpow_natCast, Nat.pow_eq]
  push_cast
  field_simp

theorem denotes_of_decimal? {amount : Amount} (h : decimal? text = some amount) :
    Denotes text amount.toRat := by
  rw [decimal?_eq] at h
  obtain ⟨hne, hmap⟩ := Option.ite_none_left_eq_some.1 h
  obtain ⟨power, hpower, rfl⟩ := Option.map_eq_some_iff.1 hmap
  obtain ⟨sign, htext, hsign⟩ := exists_sign text
  obtain ⟨point, hafter, hpoint⟩ :=
    exists_point ((splitSign text).2.dropWhile Char.isDigit)
  refine ⟨sign, _, _, point, _, _, power, ?_, hsign, allDigits_takeWhile _, hpoint,
    not_isEmpty_iff.1 hne, power?_eq_some_iff.1 hpower, toRat_digits _ _ _ power⟩
  rw [List.append_assoc, ← hafter, List.append_assoc, List.takeWhile_append_dropWhile]
  exact htext

theorem decimal?_of_parts {sign whole point fraction exponent : List Char} {power : ℤ}
    (hsign : Signed negative sign) (hwhole : AllDigits whole) (hpoint : FractionPart point fraction)
    (hne : whole ≠ [] ∨ fraction ≠ []) (hpower : PowerPart exponent power) :
    decimal? (sign ++ whole ++ point ++ exponent) =
      some ⟨negative, Digits.number (whole ++ fraction), power - (fraction.length : ℤ)⟩ := by
  obtain ⟨hends, hdot⟩ := hpower.endsBefore
  obtain ⟨htake, hdrop⟩ := takeWhile_append hwhole (hpoint.endsBefore hends)
  have hsplit : splitSign (sign ++ (whole ++ (point ++ exponent))) =
      (negative, whole ++ (point ++ exponent)) := by
    refine splitSign_append hsign fun c hc => ?_
    cases whole with
    | cons first rest =>
      obtain rfl := Option.some.inj hc
      exact not_sign_of_isDigit (hwhole first List.mem_cons_self)
    | nil =>
      cases hpoint with
      | bare => exact absurd hne (by decide)
      | pointed _ =>
        obtain rfl := Option.some.inj hc
        decide
  rw [decimal?_eq, List.append_assoc, List.append_assoc, hsplit]
  simp only [htake, hdrop, splitFraction_append hpoint hends hdot]
  rw [if_neg (not_isEmpty_iff.2 hne), power?_eq_some_iff.2 hpower, Option.map_some]

theorem Denotes.exists_amount (h : Denotes text q) :
    ∃ amount, decimal? text = some amount ∧ amount.toRat = q := by
  obtain ⟨sign, negative, whole, point, fraction, exponent, power, rfl, hsign, hwhole, hpoint, hne,
    hpower, rfl⟩ := h
  exact ⟨_, decimal?_of_parts hsign hwhole hpoint hne hpower,
    toRat_digits negative whole fraction power⟩

theorem Spells.denotes (h : Spells text i) : Denotes text i := by
  obtain ⟨sign, negative, digits, rfl, hsign, hall, hne, rfl⟩ := h
  refine ⟨sign, negative, digits, [], [], [], 0, by simp, hsign, hall, .bare, .inl hne, .bare, ?_⟩
  cases negative <;> simp [Binary64.factor]

theorem Spells.ne_nil (h : Spells text i) : text ≠ [] := by
  obtain ⟨sign, negative, digits, rfl, -, -, hne, -⟩ := h
  exact List.append_ne_nil_of_right_ne_nil sign hne

end Numeral

end FormTree
