import FormTree.Proofs.Number.Numeral
import FormTree.Proofs.Number.Shortest
import FormTree.Text.Blank

/-!
# Numbers as texts

What is written for a number is read as that number: an integer in plain notation
(`spells_toString`), and a binary64 number as a decimal that is rounded to it
(`exists_decimal?_text`). The decimal always has a point or a power, so it is not taken for an
integer (`Writes.not_spells`), and there are no blanks in it.
-/

namespace FormTree

namespace Digits

theorem number_toString (n : ℕ) : number (toString n).toList = n := by
  rw [Nat.toString_eq_repr, Nat.toList_repr]
  exact Nat.ofDigitChars_toDigits (by decide) (by decide)

theorem number_zeros (k : ℕ) : number (List.replicate k '0') = 0 := by
  induction k with
  | zero => rfl
  | succ k ih =>
    rw [List.replicate_succ', number_concat, ih]
    rfl

theorem number_append_zeros (digits : List Char) (k : ℕ) :
    number (digits ++ List.replicate k '0') = number digits * 10 ^ k := by
  rw [number_append, number_zeros, List.length_replicate, Nat.add_zero, Nat.pow_eq]

theorem number_zeros_append (digits : List Char) (k : ℕ) :
    number (List.replicate k '0' ++ digits) = number digits := by
  rw [number_append, number_zeros, Nat.zero_mul, Nat.zero_add]

end Digits

namespace Numeral

variable {text digits whole point fraction exponent : List Char} {negative : Bool} {i power : ℤ}

theorem allDigits_toString (n : ℕ) : AllDigits (toString n).toList := by
  rw [Nat.toString_eq_repr, Nat.toList_repr]
  exact fun c hc => Nat.isDigit_of_mem_toDigits (by decide) (by decide) hc

theorem toString_ne_nil (n : ℕ) : (toString n).toList ≠ [] := by
  rw [Nat.toString_eq_repr, Nat.toList_repr]
  exact Nat.toDigits_ne_nil

theorem allDigits_zeros (k : ℕ) : AllDigits (List.replicate k '0') := fun c hc => by
  rw [List.eq_of_mem_replicate hc]
  rfl

theorem AllDigits.append {more : List Char} (h : AllDigits digits) (hmore : AllDigits more) :
    AllDigits (digits ++ more) := fun c hc => (List.mem_append.1 hc).elim (h c) (hmore c)

theorem AllDigits.take (h : AllDigits digits) (n : ℕ) : AllDigits (digits.take n) := fun c hc =>
  h c (List.mem_of_mem_take hc)

theorem AllDigits.drop (h : AllDigits digits) (n : ℕ) : AllDigits (digits.drop n) := fun c hc =>
  h c (List.mem_of_mem_drop hc)

theorem spells_toString (i : ℤ) : Spells (toString i).toList i := by
  cases i with
  | ofNat n => exact ⟨[], false, _, rfl, .bare, allDigits_toString n, toString_ne_nil n,
      (congrArg _ (Digits.number_toString n)).symm⟩
  | negSucc n =>
    refine ⟨['-'], true, (toString (n + 1)).toList, String.toList_append, .minus,
      allDigits_toString _, toString_ne_nil _, ?_⟩
    rw [Digits.number_toString]
    rfl

/-! ### Decimals with a point or a power -/

/-- The text is a decimal without a sign, with a point or a power, and has this value. -/
def Writes (text : List Char) (q : ℚ) : Prop :=
  ∃ whole point fraction exponent power, text = whole ++ point ++ exponent ∧ AllDigits whole ∧
    whole ≠ [] ∧ FractionPart point fraction ∧ PowerPart exponent power ∧
    (point ≠ [] ∨ exponent ≠ []) ∧
    Digits.number (whole ++ fraction) * (10 : ℚ) ^ (power - (fraction.length : ℤ)) = q

theorem Writes.pointed (hwhole : AllDigits whole) (hne : whole ≠ [])
    (hfraction : AllDigits fraction) : Writes (whole ++ '.' :: fraction)
      (Digits.number (whole ++ fraction) * (10 : ℚ) ^ (-(fraction.length : ℤ))) :=
  ⟨whole, _, fraction, [], 0, (List.append_nil _).symm, hwhole, hne, .pointed hfraction, .bare,
    .inl nofun, by rw [zero_sub]⟩

end Numeral

namespace Binary64

open Numeral

variable {digits : List Char}

theorem writes_plain_fraction (hdigits : AllDigits digits) (k : ℕ) :
    Writes ('0' :: '.' :: (List.replicate k '0' ++ digits))
      (Digits.number digits * (10 : ℚ) ^ (-(k : ℤ) - (digits.length : ℤ))) := by
  have hwrites := Writes.pointed (allDigits_zeros 1) nofun ((allDigits_zeros k).append hdigits)
  rw [Digits.number_zeros_append, Digits.number_zeros_append, List.length_append,
    List.length_replicate, Nat.cast_add, neg_add'] at hwrites
  exact hwrites

theorem writes_plain_whole (hdigits : AllDigits digits) (hne : digits ≠ []) (k : ℕ) :
    Writes (digits ++ List.replicate k '0' ++ ['.', '0'])
      (Digits.number digits * (10 : ℚ) ^ k) := by
  have hwrites := Writes.pointed (hdigits.append (allDigits_zeros k))
    (List.append_ne_nil_of_left_ne_nil hne _) (allDigits_zeros 1)
  rw [Digits.number_append_zeros, Digits.number_append_zeros, List.length_replicate, Nat.cast_mul,
    Nat.cast_mul, Nat.cast_pow, Nat.cast_pow, Nat.cast_ofNat, zpow_neg, zpow_natCast,
    mul_inv_cancel_right₀ (by norm_num)] at hwrites
  exact hwrites

theorem writes_plain_between (hdigits : AllDigits digits) {n : ℕ} (hn : n ≠ 0)
    (hlong : n < digits.length) : Writes (digits.take n ++ '.' :: digits.drop n)
      (Digits.number digits * (10 : ℚ) ^ ((n : ℤ) - (digits.length : ℤ))) := by
  have hne : digits.take n ≠ [] := by
    rw [ne_eq, List.take_eq_nil_iff, not_or]
    exact ⟨hn, List.ne_nil_of_length_pos (by omega)⟩
  have hwrites := Writes.pointed (hdigits.take n) hne (hdigits.drop n)
  rwa [List.take_append_drop, List.length_drop, Nat.cast_sub hlong.le, neg_sub] at hwrites

theorem writes_plain (hdigits : AllDigits digits) (hne : digits ≠ []) (whole : ℤ) :
    Writes (plain digits whole)
      (Digits.number digits * (10 : ℚ) ^ (whole - (digits.length : ℤ))) := by
  rw [plain]
  split
  · next hwhole =>
    obtain ⟨k, hk⟩ := Int.eq_ofNat_of_zero_le (show 0 ≤ -whole by omega)
    rw [hk, Int.toNat_natCast, ← neg_neg whole, hk]
    exact writes_plain_fraction hdigits k
  · next hwhole =>
    obtain ⟨n, rfl⟩ := Int.eq_ofNat_of_zero_le (show 0 ≤ whole by omega)
    rw [Int.toNat_natCast]
    dsimp only
    split
    · next hshort =>
      rw [← Nat.cast_sub hshort, zpow_natCast]
      exact writes_plain_whole hdigits hne _
    · next hlong => exact writes_plain_between hdigits (by omega) (by omega)

theorem powerPart_scientific (power : ℤ) :
    PowerPart (['e', if power < 0 then '-' else '+'] ++ (toString power.natAbs).toList) power := by
  refine .written (.inl rfl) ⟨[if power < 0 then '-' else '+'], decide (power < 0), _, rfl, ?_,
    allDigits_toString _, toString_ne_nil _, ?_⟩
  · by_cases hpower : power < 0
    · rw [if_pos hpower, decide_eq_true hpower]
      exact .minus
    · rw [if_neg hpower, decide_eq_false hpower]
      exact .plus
  · rw [Digits.number_toString]
    by_cases hpower : power < 0
    · rw [decide_eq_true hpower, if_pos rfl]
      omega
    · rw [decide_eq_false hpower, if_neg Bool.false_ne_true]
      omega

theorem writes_scientific (hdigits : AllDigits digits) (hne : digits ≠ []) (power : ℤ) :
    Writes (scientific digits power)
      (Digits.number digits * (10 : ℚ) ^ (power - ((digits.length : ℤ) - 1))) := by
  have hlength : ((digits.drop 1).length : ℤ) = digits.length - 1 := by
    have hpos := List.length_pos_iff.2 hne
    rw [List.length_drop]
    omega
  refine ⟨digits.take 1, if (digits.drop 1).isEmpty then [] else '.' :: digits.drop 1,
    digits.drop 1, _, power, List.append_assoc _ _ _, hdigits.take 1, ?_, ?_,
    powerPart_scientific power, .inr nofun, ?_⟩
  · rw [ne_eq, List.take_eq_nil_iff, not_or]
    exact ⟨by decide, hne⟩
  · split
    · next hempty =>
      rw [List.isEmpty_iff.1 hempty]
      exact .bare
    · exact .pointed (hdigits.drop 1)
  · rw [List.take_append_drop, hlength]

theorem exists_writes_text (x : Binary64) : ∃ sign body, x.text.toList = sign ++ body ∧
    Signed x.negative sign ∧ Writes body x.shortest.toRat := by
  obtain ⟨digits, hdigits⟩ : ∃ digits, digits = (toString x.shortest.digits).toList := ⟨_, rfl⟩
  have hall : AllDigits digits := hdigits ▸ allDigits_toString _
  have hne : digits ≠ [] := hdigits ▸ toString_ne_nil _
  have hnumber : Digits.number digits = x.shortest.digits := hdigits ▸ Digits.number_toString _
  obtain ⟨power, hpower⟩ : ∃ power : ℤ, power = digits.length - 1 + x.shortest.scale := ⟨_, rfl⟩
  refine ⟨if x.negative then ['-'] else [],
    if -5 ≤ power ∧ power ≤ 15 then plain digits (power + 1) else scientific digits power,
    ?_, ?_, ?_⟩
  · rw [text, ← hdigits, ← hpower, String.toList_ofList]
    cases x.negative <;> rfl
  · cases x.negative
    · exact .bare
    · exact .minus
  · rw [Decimal.toRat, ← hnumber]
    split
    · have hscale : x.shortest.scale = power + 1 - digits.length := by omega
      rw [hscale]
      exact writes_plain hall hne (power + 1)
    · have hscale : x.shortest.scale = power - ((digits.length : ℤ) - 1) := by omega
      rw [hscale]
      exact writes_scientific hall hne power

/-- The text of a number is read as a decimal that is the number again. -/
theorem exists_decimal?_text (x : Binary64) :
    ∃ amount, decimal? x.text.toList = some amount ∧ amount.toBinary64? = some x := by
  obtain ⟨sign, body, htext, hsign, whole, point, fraction, exponent, power, rfl, hwhole, hne,
    hpoint, hpower, -, hvalue⟩ := exists_writes_text x
  refine ⟨⟨x.negative, Digits.number (whole ++ fraction), power - (fraction.length : ℤ)⟩, ?_, ?_⟩
  · rw [htext, ← List.append_assoc, ← List.append_assoc]
    exact decimal?_of_parts hsign hwhole hpoint (.inl hne) hpower
  · rw [Amount.toBinary64?, ofDecimal?_congr hvalue]
    exact of_decide_eq_true (readsBack_shortest x)

end Binary64

/-! ### What the texts are not -/

namespace Numeral

variable {text sign body point fraction exponent : List Char} {negative : Bool} {i : ℤ} {q : ℚ}

theorem not_isBlank_of_isDigit {c : Char} (h : c.isDigit = true) : isBlank c = false := by
  simp only [Char.isDigit, Bool.and_eq_true, decide_eq_true_eq, UInt32.le_iff_toNat_le] at h
  obtain ⟨hlow, hhigh⟩ := h
  have hleast : 48 ≤ c.toNat := hlow
  have hmost : c.toNat ≤ 57 := hhigh
  refine Bool.eq_false_iff.2 fun hblank => ?_
  simp only [isBlank, Bool.or_eq_true, Bool.and_eq_true, beq_iff_eq, decide_eq_true_eq] at hblank
  omega

theorem Signed.not_isBlank (h : Signed negative sign) : ∀ c ∈ sign, isBlank c = false := by
  cases h with
  | bare => exact List.forall_mem_nil _
  | plus | minus => exact List.forall_mem_singleton.2 rfl

theorem Spells.not_isBlank (h : Spells text i) : ∀ c ∈ text, isBlank c = false := by
  obtain ⟨sign, negative, digits, rfl, hsign, hall, -, -⟩ := h
  exact List.forall_mem_append.2
    ⟨hsign.not_isBlank, fun c hc => not_isBlank_of_isDigit (hall c hc)⟩

theorem FractionPart.not_isBlank (h : FractionPart point fraction) :
    ∀ c ∈ point, isBlank c = false := by
  cases h with
  | bare => exact List.forall_mem_nil _
  | pointed hall =>
    exact List.forall_mem_cons.2 ⟨rfl, fun c hc => not_isBlank_of_isDigit (hall c hc)⟩

theorem PowerPart.not_isBlank (h : PowerPart exponent i) : ∀ c ∈ exponent, isBlank c = false := by
  cases h with
  | bare => exact List.forall_mem_nil _
  | written hc hpower =>
    refine List.forall_mem_cons.2 ⟨?_, hpower.not_isBlank⟩
    rcases hc with rfl | rfl <;> rfl

theorem Writes.not_isBlank (h : Writes body q) : ∀ c ∈ body, isBlank c = false := by
  obtain ⟨whole, point, fraction, exponent, power, rfl, hwhole, -, hpoint, hpower, -⟩ := h
  rw [List.forall_mem_append, List.forall_mem_append]
  exact ⟨⟨fun c hc => not_isBlank_of_isDigit (hwhole c hc), hpoint.not_isBlank⟩,
    hpower.not_isBlank⟩

theorem Writes.not_allDigits (h : Writes body q) : ¬ AllDigits body := by
  obtain ⟨whole, point, fraction, exponent, power, rfl, -, -, hpoint, hpower, hmore, -⟩ := h
  rw [AllDigits, List.forall_mem_append, List.forall_mem_append]
  rintro ⟨⟨-, hpointed⟩, hwritten⟩
  cases hpoint with
  | pointed _ => exact absurd (hpointed '.' List.mem_cons_self) (by decide)
  | bare =>
    cases hpower with
    | bare => exact hmore.elim (absurd rfl) (absurd rfl)
    | @written c _ _ hc _ =>
      have hdigit := hwritten c List.mem_cons_self
      rcases hc with rfl | rfl <;> exact absurd hdigit (by decide)

theorem Writes.not_spells (h : Writes body q) (hsign : Signed negative sign) (i : ℤ) :
    ¬ Spells (sign ++ body) i := by
  intro hspells
  have hsplit : splitSign (sign ++ body) = (negative, body) := by
    obtain ⟨whole, point, fraction, exponent, power, rfl, hwhole, hne, -⟩ := h
    obtain ⟨first, rest, rfl⟩ := List.exists_cons_of_ne_nil hne
    refine splitSign_append hsign fun c hc => ?_
    obtain rfl := Option.some.inj hc
    exact not_sign_of_isDigit (hwhole first List.mem_cons_self)
  have hinteger := integer?_eq_some_iff.2 hspells
  rw [integer?_eq, Option.ite_none_left_eq_some, allDigits_iff, hsplit] at hinteger
  exact h.not_allDigits hinteger.1.2

end Numeral

theorem trimStart_eq_self {text : List Char} (h : ∀ c ∈ text, isBlank c = false) :
    trimStart text = text := by
  cases text with
  | nil => rfl
  | cons c rest => exact trimStart_of_not_isBlank rest (h c List.mem_cons_self)

theorem trim_eq_self {text : List Char} (h : ∀ c ∈ text, isBlank c = false) : trim text = text := by
  rw [trim, trimStart_eq_self h, trimEnd,
    trimStart_eq_self fun c hc => h c (List.mem_reverse.1 hc), List.reverse_reverse]

end FormTree
