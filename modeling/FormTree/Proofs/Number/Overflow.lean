import FormTree.Proofs.Number.Rounding

/-!
# Which decimals are in the format

A decimal is beyond the format if it is nearer to the next power of two than to the greatest number,
or halfway between them (`ofDecimal?_eq_none_iff`). Any other is stored as the number that it is
rounded to, with its sign (`ofDecimal?_eq_some_iff`), so that only the amount of a decimal counts,
and not its digits and its scale (`ofDecimal?_congr`).
-/

namespace FormTree

namespace Binary64

variable {negative : Bool} {x y : Binary64} {n d : ℕ} {digits more : ℕ} {scale other : ℤ}

/-- The least amount beyond the format. -/
def overflow : ℚ := (2 ^ 53 - 1 / 2) * 2 ^ (971 : ℤ)

/-! ### Numbers by their values -/

theorem exponent_le_of_abs_eq (h : |x.toRat| = |y.toRat|) : y.exponent ≤ x.exponent := by
  by_contra hlt
  obtain ⟨k, hk⟩ := Int.eq_ofNat_of_zero_le (show 0 ≤ y.exponent - x.exponent - 1 by omega)
  have hy : 0x10000000000000 ≤ y.mantissa := by
    have := x.canonical.2.1
    have := y.canonical.2.2.2
    omega
  have hpow : (2 : ℚ) ^ y.exponent = 2 ^ k * 2 * 2 ^ x.exponent := by
    rw [← pow_succ, ← zpow_natCast, ← zpow_add₀ two_ne_zero]
    exact congrArg _ (by omega)
  rw [abs_toRat, abs_toRat, hpow, ← mul_assoc] at h
  have hmantissa := mul_right_cancel₀ (two_zpow_pos x.exponent).ne' h
  have hnat : x.mantissa = y.mantissa * (2 ^ k * 2) := by exact_mod_cast hmantissa
  have hle := Nat.mul_le_mul hy (Nat.mul_le_mul_right 2 (show 1 ≤ 2 ^ k from Nat.one_le_two_pow))
  have hfull := x.canonical.1
  omega

theorem eq_of_toRat_eq (hsign : x.negative = y.negative) (h : x.toRat = y.toRat) : x = y := by
  have habs : |x.toRat| = |y.toRat| := congrArg _ h
  have hexponent : x.exponent = y.exponent :=
    le_antisymm (exponent_le_of_abs_eq habs.symm) (exponent_le_of_abs_eq habs)
  rw [abs_toRat, abs_toRat, hexponent] at habs
  have hmantissa := mul_right_cancel₀ (two_zpow_pos y.exponent).ne' habs
  have hnat : x.mantissa = y.mantissa := by exact_mod_cast hmantissa
  cases x
  cases y
  simp_all

/-! ### Fractions -/

theorem places_eq_iff (hn : n ≠ 0) (hd : 0 < d) :
    places n d = 0x20000000000000 ↔ (2 : ℚ) ^ 53 - 1 / 2 ≤ inPlaces n d := by
  have hrounded := rounded_places n hd
  have hle := places_le hn hd
  constructor
  · intro h
    have hhalf := (abs_le.1 hrounded.half).2
    rw [h] at hhalf
    push_cast at hhalf
    linarith
  · intro h
    by_contra hne
    have hbelow : (places n d : ℚ) ≤ 2 ^ 53 - 1 := by
      have hnat : places n d + 1 ≤ 2 ^ 53 := by omega
      have hcast : (places n d : ℚ) + 1 ≤ 2 ^ 53 := by exact_mod_cast hnat
      linarith
    have hhalf := (abs_le.1 hrounded.half).1
    rw [Int.cast_natCast] at hhalf
    -- The only place left is a tie, which goes to the even neighbour above.
    have hplace : (places n d : ℚ) = 2 ^ 53 - 1 := by linarith
    have htie : |((places n d : ℤ) : ℚ) - inPlaces n d| = 1 / 2 := by
      rw [Int.cast_natCast, abs_sub_comm, abs_of_nonneg (by linarith)]
      linarith
    have heven := hrounded.even htie
    have hnat : places n d + 1 = 2 ^ 53 := by
      have hcast : (places n d : ℚ) + 1 = 2 ^ 53 := by linarith
      exact_mod_cast hcast
    omega

theorem ofFraction?_eq_none_iff_places (hn : n ≠ 0) (hd : 0 < d) :
    ofFraction? negative n d = none ↔
      971 < lastPlace n d ∨ lastPlace n d = 971 ∧ places n d = 0x20000000000000 := by
  have hle := places_le hn hd
  have hge := le_places hn hd
  have hleast : -1074 ≤ lastPlace n d := le_max_right _ _
  rw [ofFraction?_eq hn, dite_eq_right_iff]
  simp only [reduceCtorEq, imp_false]
  split <;> omega

/-- Half a place below a power of two is above the binade below, and below the binade above. -/
theorem half_place_bounds (e : ℤ) : (2 : ℚ) ^ 53 * 2 ^ e ≤ (2 ^ 53 - 1 / 2) * 2 ^ (e + 1) ∧
    (2 ^ 53 - 1 / 2) * 2 ^ e ≤ (2 : ℚ) ^ 52 * 2 ^ (e + 1) := by
  have hpow := two_zpow_pos e
  rw [zpow_add_one₀ two_ne_zero]
  constructor <;> linarith

theorem overflow_pos : 0 < overflow := mul_pos (by norm_num) (two_zpow_pos 971)

theorem ofFraction?_eq_none_iff (hd : 0 < d) :
    ofFraction? negative n d = none ↔ overflow ≤ n / d := by
  by_cases hn : n = 0
  · rw [ofFraction?, if_pos hn, hn, Nat.cast_zero, zero_div]
    exact iff_of_false (Option.some_ne_none _) (not_le.2 overflow_pos)
  · rw [ofFraction?_eq_none_iff_places hn hd, ← inPlaces_mul, overflow]
    have hscale : (0 : ℚ) ≤ 2 ^ 53 - 1 / 2 := by norm_num
    rcases lt_trichotomy (lastPlace n d) 971 with hlt | heq | hgt
    · refine iff_of_false (by omega) (not_le.2 ?_)
      calc inPlaces n d * 2 ^ lastPlace n d < 2 ^ 53 * 2 ^ lastPlace n d :=
            mul_lt_mul_of_pos_right (inPlaces_lt hn hd) (two_zpow_pos _)
        _ ≤ (2 ^ 53 - 1 / 2) * 2 ^ (lastPlace n d + 1) := (half_place_bounds _).1
        _ ≤ (2 ^ 53 - 1 / 2) * 2 ^ (971 : ℤ) :=
            mul_le_mul_of_nonneg_left (zpow_le_zpow_right₀ one_le_two (by omega)) hscale
    · rw [heq, places_eq_iff hn hd, mul_le_mul_iff_left₀ (two_zpow_pos 971)]
      exact ⟨fun h => h.elim (fun hlt => absurd hlt (lt_irrefl _)) And.right,
        fun h => .inr ⟨rfl, h⟩⟩
    · refine iff_of_true (.inl hgt) ?_
      calc (2 ^ 53 - 1 / 2) * 2 ^ (971 : ℤ) ≤ (2 : ℚ) ^ 52 * 2 ^ ((971 : ℤ) + 1) :=
            (half_place_bounds 971).2
        _ ≤ 2 ^ 52 * 2 ^ lastPlace n d :=
            mul_le_mul_of_nonneg_left (zpow_le_zpow_right₀ one_le_two (by omega)) (by norm_num)
        _ ≤ inPlaces n d * 2 ^ lastPlace n d :=
            mul_le_mul_of_nonneg_right (le_inPlaces hn hd (by omega)) (two_zpow_pos _).le

theorem negative_of_ofFraction? (h : ofFraction? negative n d = some x) :
    x.negative = negative := by
  by_cases hn : n = 0
  · rw [ofFraction?, if_pos hn] at h
    rw [← Option.some.inj h]
    rfl
  · rw [ofFraction?_eq hn] at h
    obtain ⟨hcanonical, hx⟩ := Option.dite_none_right_eq_some.1 h
    rw [← Option.some.inj hx]

/-! ### Decimals -/

theorem ofDecimal?_eq_none_iff (negative : Bool) (digits : ℕ) (scale : ℤ) :
    ofDecimal? negative digits scale = none ↔ overflow ≤ digits * 10 ^ scale := by
  rw [ofDecimal?]
  split
  · next hzero =>
    rw [hzero, Nat.cast_zero, zero_mul]
    exact iff_of_false (Option.some_ne_none _) (not_le.2 overflow_pos)
  · next hdigits =>
    have hone : (1 : ℚ) ≤ digits := by exact_mod_cast Nat.one_le_iff_ne_zero.2 hdigits
    split
    · next hlarge =>
      refine iff_of_true rfl ?_
      calc overflow ≤ 2 ^ (52 : ℤ) * 2 ^ ((971 : ℤ) + 1) := (half_place_bounds 971).2
        _ = 2 ^ (1024 : ℤ) := (zpow_add₀ two_ne_zero _ _).symm
        _ ≤ 2 ^ (3 * scale) := zpow_le_zpow_right₀ one_le_two (by omega)
        _ = 8 ^ scale := by rw [zpow_mul, show (2 : ℚ) ^ (3 : ℤ) = 8 by norm_num]
        _ ≤ 10 ^ scale := zpow_le_zpow_left₀ (by omega) (by norm_num) (by norm_num)
        _ ≤ digits * 10 ^ scale := le_mul_of_one_le_left (by positivity) hone
    · split
      · next htiny =>
        refine iff_of_false (Option.some_ne_none _) (not_le.2 ?_)
        calc (digits : ℚ) * 10 ^ scale < 2 ^ (-1080 : ℤ) := decimal_lt hdigits htiny.1 htiny.2
          _ ≤ 1 * 2 ^ (971 : ℤ) := by
            rw [one_mul]
            exact zpow_le_zpow_right₀ one_le_two (by decide)
          _ ≤ overflow := mul_le_mul_of_nonneg_right (by norm_num) (two_zpow_pos 971).le
      · have hratio := ratio_scaleTen digits 1 scale
        rw [Nat.cast_one, div_one] at hratio
        rw [ofFraction?_eq_none_iff (scaleTen_pos digits Nat.one_pos scale), hratio]

theorem negative_of_ofDecimal? (h : ofDecimal? negative digits scale = some x) :
    x.negative = negative := by
  rw [ofDecimal?] at h
  split at h
  · rw [← Option.some.inj h]
    rfl
  · split at h
    · exact absurd h.symm (Option.some_ne_none x)
    · split at h
      · rw [← Option.some.inj h]
        rfl
      · exact negative_of_ofFraction? h

/-- A decimal that is not beyond the format is stored as the number that it is rounded to. -/
theorem ofDecimal?_eq_some_iff : ofDecimal? negative digits scale = some x ↔
    x.negative = negative ∧ Rounds (factor negative * (digits * 10 ^ scale)) x ∧
      digits * 10 ^ scale < overflow := by
  rw [← not_le, ← ofDecimal?_eq_none_iff negative]
  constructor
  · intro h
    refine ⟨negative_of_ofDecimal? h, rounds_of_ofDecimal? h, ?_⟩
    rw [h]
    exact Option.some_ne_none x
  · rintro ⟨hsign, hx, hformat⟩
    obtain ⟨y, hy⟩ := Option.ne_none_iff_exists'.1 hformat
    have hvalue := (rounds_of_ofDecimal? hy).unique hx
    rw [hy, eq_of_toRat_eq ((negative_of_ofDecimal? hy).trans hsign.symm) hvalue]

theorem ofDecimal?_congr (h : (digits : ℚ) * 10 ^ scale = more * 10 ^ other) :
    ofDecimal? negative digits scale = ofDecimal? negative more other := by
  ext x
  rw [ofDecimal?_eq_some_iff, ofDecimal?_eq_some_iff, h]

end Binary64

end FormTree
