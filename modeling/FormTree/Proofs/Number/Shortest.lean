import FormTree.Number.Shortest
import FormTree.Proofs.Number.Overflow

/-!
# The shortest decimal reads back

Between a binary64 number and any other one there is a gap, in proportion to the number
(`le_distance`), and a decimal with seventeen digits comes nearer than half of it. So one of the
decimals that are looked at always reads back as the number, and so does the shortest one
(`readsBack_shortest`).
-/

namespace FormTree

/-- The value. -/
def Decimal.toRat (decimal : Decimal) : ℚ := decimal.digits * 10 ^ decimal.scale

namespace Binary64

variable {x y : Binary64} {q : ℚ} {n d : ℕ} {decimal : Decimal}

/-! ### The gap around a number -/

theorem toRat_eq (x : Binary64) : x.toRat = factor x.negative * |x.toRat| := by
  rw [abs_toRat, toRat]

theorem isZero_iff : x.isZero = true ↔ x.toRat = 0 := by
  rw [← abs_eq_zero, abs_toRat, mul_eq_zero, or_iff_left (two_zpow_pos x.exponent).ne',
    Nat.cast_eq_zero, isZero, beq_iff_eq]

theorem le_distance_of_grid {e z m : ℤ} {negative : Bool}
    (hx : x.toRat = factor negative * (m * 2 ^ e)) (hy : y.toRat = factor negative * (z * 2 ^ e))
    (hne : y.toRat ≠ x.toRat) : (2 : ℚ) ^ e ≤ |y.toRat - x.toRat| := by
  have hapart : z ≠ m := by
    rintro rfl
    exact hne (hy.trans hx.symm)
  have hint : 1 ≤ |z - m| := Int.one_le_abs (sub_ne_zero.2 hapart)
  have hone : (1 : ℚ) ≤ |(z : ℚ) - m| := by exact_mod_cast hint
  rw [hx, hy, distance_scaled]
  exact le_mul_of_one_le_left (two_zpow_pos e).le hone

/-- The last place of a number is at least a part in `2 ^ 53` of it, and any other number is away by
a place, or by half a place at the lower end of a binade. -/
theorem exists_place (hne : y.toRat ≠ x.toRat) :
    ∃ e : ℤ, |x.toRat| ≤ 2 ^ 53 * 2 ^ e ∧ (2 : ℚ) ^ e ≤ |y.toRat - x.toRat| := by
  obtain ⟨hfull, -, -, hnormal⟩ := x.canonical
  have hpow := two_zpow_pos x.exponent
  have hsize : |x.toRat| ≤ 2 ^ 53 * 2 ^ x.exponent := by
    have hmantissa : (x.mantissa : ℚ) ≤ 2 ^ 53 := by exact_mod_cast hfull.le
    rw [abs_toRat]
    exact mul_le_mul_of_nonneg_right hmantissa hpow.le
  have hbelow : |x.toRat| - |y.toRat| ≤ |y.toRat - x.toRat| := by
    rw [abs_sub_comm]
    exact abs_sub_abs_le_abs_sub _ _
  rcases exists_grid y x.negative x.exponent with ⟨z, hy, -⟩ | ⟨hy, he⟩
  · exact ⟨_, hsize, le_distance_of_grid (by rw [toRat, Int.cast_natCast]) hy hne⟩
  rw [abs_toRat] at hbelow
  rcases (hnormal.resolve_right (by omega)).lt_or_eq with hlarge | hleast
  · -- The last place of the binade is between the two.
    have hmore : (2 : ℚ) ^ 52 + 1 ≤ x.mantissa := by exact_mod_cast hlarge
    have hplace := mul_le_mul_of_nonneg_right hmore hpow.le
    exact ⟨_, hsize, by linarith⟩
  · have hmantissa : (x.mantissa : ℚ) = 2 ^ 52 := by exact_mod_cast hleast.symm
    have hhalf : (2 : ℚ) ^ x.exponent = 2 * 2 ^ (x.exponent - 1) := by
      rw [zpow_sub_one₀ two_ne_zero]
      ring
    have hx : x.toRat = factor x.negative * ((2 ^ 53 : ℤ) * 2 ^ (x.exponent - 1)) := by
      rw [toRat, hmantissa, hhalf]
      push_cast
      ring
    refine ⟨x.exponent - 1, ?_, ?_⟩
    · rw [abs_toRat, hmantissa, hhalf]
      linarith
    · rcases exists_grid y x.negative (x.exponent - 1) with ⟨z, hy, -⟩ | ⟨hy, -⟩
      · exact le_distance_of_grid hx hy hne
      · have hpos := two_zpow_pos (x.exponent - 1)
        rw [hmantissa, hhalf] at hbelow
        linarith

theorem le_distance (hne : y.toRat ≠ x.toRat) : |x.toRat| ≤ |y.toRat - x.toRat| * 2 ^ 53 := by
  obtain ⟨e, hsize, hplace⟩ := exists_place hne
  calc |x.toRat| ≤ 2 ^ 53 * 2 ^ e := hsize
    _ = 2 ^ e * 2 ^ 53 := mul_comm _ _
    _ ≤ |y.toRat - x.toRat| * 2 ^ 53 := mul_le_mul_of_nonneg_right hplace (by positivity)

theorem rounds_of_near (h : |q - x.toRat| * 2 ^ 54 < |x.toRat|) : Rounds q x := by
  have hcloser : ∀ y : Binary64, y.toRat ≠ x.toRat → |x.toRat - q| < |y.toRat - q| := by
    intro y hne
    have hgap := le_distance hne
    have htriangle := abs_sub_le y.toRat q x.toRat
    rw [abs_sub_comm x.toRat q]
    linarith
  refine ⟨fun y => ?_, fun y heq => ?_⟩
  · by_cases hsame : y.toRat = x.toRat
    · rw [hsame]
    · exact (hcloser y hsame).le
  · by_cases hsame : y.toRat = x.toRat
    · exact .inl hsame
    · exact absurd heq (hcloser y hsame).ne

theorem abs_toRat_le (x : Binary64) : |x.toRat| ≤ (2 ^ 53 - 1) * 2 ^ (971 : ℤ) := by
  obtain ⟨hfull, -, hmost, -⟩ := x.canonical
  have hmantissa : (x.mantissa : ℚ) ≤ 2 ^ 53 - 1 := by
    have hcast : (x.mantissa : ℚ) + 1 ≤ 2 ^ 53 := by exact_mod_cast hfull
    linarith
  rw [abs_toRat]
  exact mul_le_mul hmantissa (zpow_le_zpow_right₀ one_le_two hmost) (two_zpow_pos _).le
    (by norm_num)

theorem readsBack_of_near (h : |decimal.toRat - (|x.toRat|)| * 2 ^ 54 < |x.toRat|) :
    x.readsBack decimal = true := by
  refine decide_eq_true (ofDecimal?_eq_some_iff.2 ⟨rfl, rounds_of_near ?_, ?_⟩)
  · have hdistance : |factor x.negative * decimal.toRat - x.toRat| =
        |decimal.toRat - (|x.toRat|)| := by
      conv_lhs => rw [toRat_eq x]
      rw [← mul_sub, abs_mul, abs_factor, one_mul]
    rw [Decimal.toRat] at hdistance
    rw [hdistance]
    exact h
  · have hmost := abs_toRat_le x
    have hpow := two_zpow_pos 971
    have hnear := le_abs_self (decimal.toRat - |x.toRat|)
    show decimal.toRat < overflow
    rw [overflow]
    generalize (2 : ℚ) ^ (971 : ℤ) = place at *
    linarith

/-! ### Seventeen digits -/

theorem ten_zpow_le_of_bases {s b : ℤ} {i j : ℕ} (hj : j ≠ 0) (h : j * s ≤ i * b)
    (hbases : ((10 : ℚ) ^ i) ^ b ≤ (2 ^ j) ^ b) : (10 : ℚ) ^ s ≤ 2 ^ b := by
  refine (pow_le_pow_iff_left₀ (by positivity) (by positivity) hj).1 ?_
  calc ((10 : ℚ) ^ s) ^ j = 10 ^ (j * s) := by rw [← zpow_natCast, ← zpow_mul, mul_comm]
    _ ≤ 10 ^ (i * b) := zpow_le_zpow_right₀ (by norm_num) h
    _ = (10 ^ i) ^ b := by rw [zpow_mul, zpow_natCast]
    _ ≤ (2 ^ j) ^ b := hbases
    _ = (2 ^ b) ^ j := by rw [← zpow_natCast, ← zpow_natCast, ← zpow_mul, ← zpow_mul, mul_comm]

/-- The logarithm of two to the base ten is between `59 / 196` and `28 / 93`. -/
theorem ten_zpow_le {s b : ℤ} (h : 0 ≤ b ∧ 196 * s ≤ 59 * b ∨ b ≤ 0 ∧ 93 * s ≤ 28 * b) :
    (10 : ℚ) ^ s ≤ 2 ^ b := by
  rcases h with ⟨hb, hle⟩ | ⟨hb, hle⟩
  · exact ten_zpow_le_of_bases (show 196 ≠ 0 by decide) hle
      (zpow_le_zpow_left₀ hb (by norm_num) (by norm_num))
  · refine ten_zpow_le_of_bases (show 93 ≠ 0 by decide) hle ?_
    have hinverse : ((2 : ℚ) ^ 93) ^ (-b) ≤ (10 ^ 28) ^ (-b) :=
      zpow_le_zpow_left₀ (neg_nonneg.2 hb) (by norm_num) (by norm_num)
    rwa [zpow_neg, zpow_neg, inv_le_inv₀ (by positivity) (by positivity)] at hinverse

theorem scaleTen_le_iff (n : ℕ) (hd : 0 < d) (k : ℤ) :
    (scaleTen n d (-k)).2 ≤ (scaleTen n d (-k)).1 ↔ (10 : ℚ) ^ k ≤ n / d := by
  have hpos : (0 : ℚ) < (scaleTen n d (-k)).2 := by exact_mod_cast scaleTen_pos n hd _
  rw [← Nat.cast_le (α := ℚ), ← one_le_div hpos, ratio_scaleTen, zpow_neg, ← div_eq_mul_inv,
    one_le_div (by positivity)]

theorem floorLog10From_le (hd : 0 < d) {k : ℤ} (h : (10 : ℚ) ^ k ≤ n / d) (fuel : ℕ) :
    (10 : ℚ) ^ floorLog10From n d fuel k ≤ n / d := by
  induction fuel generalizing k with
  | zero => exact h
  | succ fuel ih =>
    rw [floorLog10From]
    split
    · next hnext => exact ih ((scaleTen_le_iff n hd (k + 1)).1 hnext)
    · exact h

theorem floorLog10_le (hn : n ≠ 0) (hd : 0 < d) : (10 : ℚ) ^ floorLog10 n d ≤ n / d := by
  refine floorLog10From_le hd ((ten_zpow_le ?_).trans (floorLog2_spec hn hd).1) 8
  split <;> omega

theorem mem_neighbours_iff {leading scale : ℤ} {count : ℕ} {scaled : ℕ × ℕ}
    (hscale : scale = leading - ((count : ℤ) - 1)) (hscaled : scaled = scaleTen n d (-scale)) :
    decimal ∈ neighbours n d leading count ↔
      decimal = ⟨scaled.1 / scaled.2, scale⟩ ∨ decimal = ⟨scaled.1 / scaled.2 + 1, scale⟩ := by
  subst hscale hscaled
  rw [neighbours]
  split
  · exact List.mem_pair
  · exact List.mem_pair.trans or_comm

/-- The decimal with so many digits that is nearest is looked at, and half a place away at most. -/
theorem exists_neighbour (hd : 0 < d) (leading : ℤ) (count : ℕ) :
    ∃ decimal ∈ neighbours n d leading count,
      |decimal.toRat - n / d| ≤ 1 / 2 * 10 ^ (leading - ((count : ℤ) - 1)) := by
  obtain ⟨scale, hscale⟩ : ∃ scale : ℤ, scale = leading - ((count : ℤ) - 1) := ⟨_, rfl⟩
  obtain ⟨scaled, hscaled⟩ : ∃ scaled, scaled = scaleTen n d (-scale) := ⟨_, rfl⟩
  have hround : roundHalfEven scaled.1 scaled.2 = scaled.1 / scaled.2 ∨
      roundHalfEven scaled.1 scaled.2 = scaled.1 / scaled.2 + 1 := by
    rw [roundHalfEven]
    split_ifs <;> simp
  refine ⟨⟨roundHalfEven scaled.1 scaled.2, scale⟩, ?_, ?_⟩
  · rw [mem_neighbours_iff hscale hscaled]
    exact hround.imp (fun h => by rw [h]) fun h => by rw [h]
  · have hpow : (0 : ℚ) < 10 ^ scale := by positivity
    have hpos : 0 < scaled.2 := by
      rw [hscaled]
      exact scaleTen_pos n hd _
    have hratio : (n : ℚ) / d = scaled.1 / scaled.2 * 10 ^ scale := by
      rw [hscaled, ratio_scaleTen, mul_assoc, ← zpow_add₀ (by norm_num), neg_add_cancel, zpow_zero,
        mul_one]
    have hhalf := (rounded_roundHalfEven scaled.1 hpos).half
    rw [Int.cast_natCast] at hhalf
    rw [← hscale, Decimal.toRat, hratio, ← sub_mul, abs_mul, abs_of_pos hpow]
    exact mul_le_mul_of_nonneg_right hhalf hpow.le

/-- A decimal with seventeen digits is near. -/
theorem exists_near_candidate (hx : x.isZero = false) :
    ∃ decimal ∈ candidates x, |decimal.toRat - (|x.toRat|)| * 2 ^ 54 < |x.toRat| := by
  obtain ⟨n, hn⟩ : ∃ n, n = x.magnitude.1 := ⟨_, rfl⟩
  obtain ⟨d, hd⟩ : ∃ d, d = x.magnitude.2 := ⟨_, rfl⟩
  have hpos : 0 < d := hd ▸ scaleTwo_pos x.mantissa Nat.one_pos x.exponent
  have hvalue : |x.toRat| = n / d := by
    rw [toRat_eq_magnitude, abs_mul, abs_factor, one_mul, hn, hd, abs_of_nonneg (by positivity)]
  have hne : n ≠ 0 := by
    rintro rfl
    rw [Nat.cast_zero, zero_div, abs_eq_zero, ← isZero_iff, hx] at hvalue
    exact Bool.false_ne_true hvalue
  have hleading := floorLog10_le hne hpos
  obtain ⟨decimal, hmem, hnear⟩ := exists_neighbour (n := n) hpos (floorLog10 n d) 17
  refine ⟨decimal, ?_, ?_⟩
  · rw [candidates, List.mem_flatMap]
    exact ⟨16, by decide, by rwa [← hn, ← hd]⟩
  · have hstep : (10 : ℚ) ^ (floorLog10 n d - ((17 : ℕ) - 1 : ℤ)) * 10 ^ 16 =
        10 ^ floorLog10 n d := by
      rw [← zpow_natCast, ← zpow_add₀ (by norm_num)]
      exact congrArg _ (by norm_num)
    have hpow : (0 : ℚ) < 10 ^ floorLog10 n d := by positivity
    rw [hvalue]
    -- A step is less than a part in `10 ^ 16`, and `2 ^ 53` is less than `10 ^ 16`.
    generalize (10 : ℚ) ^ (floorLog10 n d - ((17 : ℕ) - 1 : ℤ)) = step at hnear hstep
    linarith

/-! ### The shortest decimal -/

theorem strip_toRat (fuel : ℕ) (decimal : Decimal) :
    (decimal.strip fuel).toRat = decimal.toRat := by
  induction fuel generalizing decimal with
  | zero => rfl
  | succ fuel ih =>
    rw [Decimal.strip]
    split
    · next hzero =>
      obtain ⟨k, hk⟩ := Nat.dvd_of_mod_eq_zero hzero.1
      rw [ih, Decimal.toRat, Decimal.toRat, hk, Nat.mul_div_cancel_left k (by decide),
        zpow_add_one₀ (by norm_num)]
      push_cast
      ring
    · rfl

theorem readsBack_congr {other : Decimal} (h : decimal.toRat = other.toRat) :
    x.readsBack decimal = x.readsBack other := by
  rw [readsBack, readsBack, ofDecimal?_congr h]

/-- The shortest decimal reads back as the number. -/
theorem readsBack_shortest (x : Binary64) : x.readsBack x.shortest = true := by
  rw [shortest]
  split
  · next hzero =>
    have hvalue : (zero x.negative).toRat = x.toRat := by rw [toRat_zero, isZero_iff.1 hzero]
    have hx : zero x.negative = x := eq_of_toRat_eq rfl hvalue
    exact decide_eq_true (congrArg some hx)
  · next hnonzero =>
    rw [readsBack_congr (strip_toRat 400 _)]
    obtain ⟨near, hmem, hnear⟩ := exists_near_candidate (by simpa using hnonzero)
    obtain ⟨first, hfirst⟩ := Option.isSome_iff_exists.1
      (List.find?_isSome.2 ⟨near, hmem, readsBack_of_near hnear⟩)
    rw [hfirst, Option.getD_some]
    exact readsBack_of_find? hfirst

end Binary64

end FormTree
