import FormTree.Number.Binary64
import Mathlib.Algebra.Order.Field.Power
import Mathlib.Algebra.Order.Round
import Mathlib.Data.Rat.Cast.Order
import Mathlib.Tactic.FieldSimp
import Mathlib.Tactic.Linarith
import Mathlib.Tactic.NormNum
import Mathlib.Tactic.Positivity
import Mathlib.Tactic.Ring

/-!
# Rounding to binary64

A fraction or a decimal is rounded to the nearest binary64 number, with a tie to the even mantissa
(`Rounds`), and this decides which number it is (`Rounds.unique`). What is beyond the format is at
least `2 ^ 1023` (`le_of_ofDecimal?_eq_none`).

A number is rounded on the grid of the multiples of its last place. Of all binary64 numbers, those
with a lower last place may be off this grid, but they are smaller than the least number of the
binade, which is on it (`exists_grid`).
-/

namespace FormTree

namespace Binary64

variable {negative : Bool} {x y : Binary64} {q r : ℚ} {n d : ℕ} {e : ℤ}

/-! ### Values -/

/-- The factor of a sign. -/
def factor (negative : Bool) : ℚ := if negative then -1 else 1

/-- The exact value. -/
def toRat (x : Binary64) : ℚ := factor x.negative * (x.mantissa * 2 ^ x.exponent)

@[simp] theorem abs_factor (negative : Bool) : |factor negative| = 1 := by
  cases negative <;> simp [factor]

theorem factor_mul_self (negative : Bool) : factor negative * factor negative = 1 := by
  cases negative <;> norm_num [factor]

theorem two_zpow_pos (e : ℤ) : (0 : ℚ) < 2 ^ e := zpow_pos two_pos e

theorem abs_toRat (x : Binary64) : |x.toRat| = x.mantissa * 2 ^ x.exponent := by
  have hpow := two_zpow_pos x.exponent
  rw [toRat, abs_mul, abs_factor, one_mul, abs_of_nonneg (by positivity)]

@[simp] theorem toRat_zero (negative : Bool) : (zero negative).toRat = 0 := by
  simp [toRat, zero]

theorem ratio_scale {base : ℕ} (hbase : 0 < base) (n d : ℕ) (shift : ℤ) :
    let scaled := if 0 ≤ shift then (n * Nat.pow base shift.toNat, d)
      else (n, d * Nat.pow base (-shift).toNat)
    (scaled.1 : ℚ) / scaled.2 = n / d * (base : ℚ) ^ shift := by
  have hne : (base : ℚ) ≠ 0 := by exact_mod_cast hbase.ne'
  dsimp only
  split
  · next hshift =>
    obtain ⟨k, rfl⟩ := Int.eq_ofNat_of_zero_le hshift
    rw [Int.toNat_natCast, zpow_natCast, Nat.pow_eq, Nat.cast_mul, Nat.cast_pow]
    ring
  · next hshift =>
    obtain ⟨k, hk⟩ := Int.eq_ofNat_of_zero_le (show 0 ≤ -shift by omega)
    rw [hk, Int.toNat_natCast, Nat.pow_eq, Nat.cast_mul, Nat.cast_pow,
      show shift = -(k : ℤ) by omega, zpow_neg, zpow_natCast]
    field_simp

theorem ratio_scaleTwo (n d : ℕ) (shift : ℤ) :
    ((scaleTwo n d shift).1 : ℚ) / (scaleTwo n d shift).2 = n / d * 2 ^ shift :=
  ratio_scale two_pos n d shift

theorem ratio_scaleTen (n d : ℕ) (shift : ℤ) :
    ((scaleTen n d shift).1 : ℚ) / (scaleTen n d shift).2 = n / d * 10 ^ shift :=
  ratio_scale (by decide) n d shift

theorem scaleTwo_pos (n : ℕ) (hd : 0 < d) (shift : ℤ) : 0 < (scaleTwo n d shift).2 := by
  rw [scaleTwo]
  split
  · exact hd
  · exact Nat.mul_pos hd (Nat.pow_pos two_pos)

theorem scaleTen_pos (n : ℕ) (hd : 0 < d) (shift : ℤ) : 0 < (scaleTen n d shift).2 := by
  rw [scaleTen]
  split
  · exact hd
  · exact Nat.mul_pos hd (Nat.pow_pos (by decide))

theorem toRat_eq_magnitude (x : Binary64) :
    x.toRat = factor x.negative * (x.magnitude.1 / x.magnitude.2) := by
  rw [magnitude, ratio_scaleTwo, Nat.cast_one, div_one, toRat]

theorem toInt?_eq_some_iff {i : ℤ} : x.toInt? = some i ↔ x.toRat = i := by
  have hpos : (0 : ℚ) < x.magnitude.2 := by
    exact_mod_cast scaleTwo_pos x.mantissa Nat.one_pos x.exponent
  rw [toInt?, toRat_eq_magnitude]
  generalize x.magnitude.1 = a, x.magnitude.2 = b at *
  split
  · next hmod =>
    obtain ⟨k, rfl⟩ := Nat.dvd_of_mod_eq_zero hmod
    have hratio : ((b * k : ℕ) : ℚ) / b = k := by
      rw [Nat.cast_mul]
      field_simp
    have hquotient : b * k / b = k := Nat.mul_div_cancel_left k (by exact_mod_cast hpos)
    rw [hratio, hquotient, Option.some.injEq, factor]
    cases x.negative
    · simp only [Bool.false_eq_true, if_false, one_mul]
      exact_mod_cast Iff.rfl
    · simp only [if_true, neg_one_mul]
      exact_mod_cast Iff.rfl
  · next hmod =>
    refine iff_of_false (Option.some_ne_none i ·.symm) fun hi => hmod ?_
    have hmultiple : (a : ℚ) = factor x.negative * i * b := by
      rw [← hi, ← mul_assoc, factor_mul_self, one_mul, div_mul_cancel₀ _ hpos.ne']
    have hdvd : (b : ℤ) ∣ a := by
      cases hnegative : x.negative
      · refine ⟨i, ?_⟩
        rw [hnegative, factor, if_neg Bool.false_ne_true, one_mul, mul_comm] at hmultiple
        exact_mod_cast hmultiple
      · refine ⟨-i, ?_⟩
        rw [hnegative, factor, if_pos rfl, neg_one_mul, mul_comm] at hmultiple
        exact_mod_cast hmultiple
    exact Nat.mod_eq_zero_of_dvd (Int.natCast_dvd_natCast.1 hdvd)

/-! ### Rounding to an integer -/

/-- The integer is at most half away, and even if it is exactly half away. -/
structure Rounded (m : ℤ) (r : ℚ) : Prop where
  half : |(m : ℚ) - r| ≤ 1 / 2
  even : |(m : ℚ) - r| = 1 / 2 → m % 2 = 0

theorem rounded_of_lt {m : ℤ} (h : |(m : ℚ) - r| < 1 / 2) : Rounded m r :=
  ⟨h.le, fun heq => absurd heq h.ne⟩

theorem rounded_roundHalfEven (n : ℕ) (hd : 0 < d) : Rounded (roundHalfEven n d) (n / d) := by
  have hpos : (0 : ℚ) < d := by exact_mod_cast hd
  obtain ⟨t, ht⟩ : ∃ t : ℚ, t = (n % d : ℕ) / d := ⟨_, rfl⟩
  have hr : (n : ℚ) / d = (n / d : ℕ) + t := by
    have hn : (n : ℚ) = d * (n / d : ℕ) + (n % d : ℕ) := by
      exact_mod_cast (Nat.div_add_mod n d).symm
    rw [ht, div_eq_iff hpos.ne', add_mul, div_mul_cancel₀ _ hpos.ne', mul_comm]
    exact hn
  have hnonneg : 0 ≤ t := by
    rw [ht]
    positivity
  have hone : t < 1 := by
    rw [ht, div_lt_one hpos]
    exact_mod_cast Nat.mod_lt n hd
  have hless : t < 1 / 2 ↔ 2 * (n % d) < d := by
    rw [ht, div_lt_div_iff₀ hpos two_pos, one_mul, mul_comm]
    exact_mod_cast Iff.rfl
  have hmore : 1 / 2 < t ↔ d < 2 * (n % d) := by
    rw [ht, div_lt_div_iff₀ two_pos hpos, one_mul, mul_comm]
    exact_mod_cast Iff.rfl
  rw [hr, roundHalfEven]
  generalize n / d = k
  split
  · next hlow =>
    refine rounded_of_lt ?_
    rw [Int.cast_natCast, abs_lt]
    constructor <;> linarith [hless.2 hlow]
  · next hnotLow =>
    split
    · next hhigh =>
      refine rounded_of_lt ?_
      rw [Int.cast_natCast, Nat.cast_add_one, abs_lt]
      constructor <;> linarith [hmore.2 hhigh]
    · next hnotHigh =>
      have htie : t = 1 / 2 :=
        le_antisymm (not_lt.1 (mt hmore.1 hnotHigh)) (not_lt.1 (mt hless.1 hnotLow))
      split
      · next heven =>
        refine ⟨?_, fun _ => by omega⟩
        rw [Int.cast_natCast, htie, abs_le]
        constructor <;> linarith
      · next hodd =>
        refine ⟨?_, fun _ => by omega⟩
        rw [Int.cast_natCast, Nat.cast_add_one, htie, abs_le]
        constructor <;> linarith

theorem Rounded.nearest {m : ℤ} (h : Rounded m r) (z : ℤ) :
    |(m : ℚ) - r| ≤ |(z : ℚ) - r| ∧
      (|(m : ℚ) - r| = |(z : ℚ) - r| → z = m ∨ m % 2 = 0 ∧ z % 2 = 1) := by
  by_cases hne : z = m
  · rw [hne]
    exact ⟨le_rfl, fun _ => .inl rfl⟩
  · have hapart : (1 : ℚ) ≤ |(z : ℚ) - m| := by
      have hint : 1 ≤ |z - m| := Int.one_le_abs (sub_ne_zero.2 hne)
      exact_mod_cast hint
    have htriangle : |(z : ℚ) - m| ≤ |(z : ℚ) - r| + |(m : ℚ) - r| := by
      rw [abs_sub_comm (m : ℚ) r]
      exact abs_sub_le _ _ _
    have hhalf := h.half
    refine ⟨by linarith, fun heq => .inr ?_⟩
    have hexact : |(m : ℚ) - r| = 1 / 2 := by linarith
    have hnext : |(z : ℚ) - m| = 1 := by linarith
    have hneighbour : |z - m| = 1 := by exact_mod_cast hnext
    have heven := h.even hexact
    rcases (abs_eq one_pos.le).1 hneighbour with hz | hz
    · omega
    · omega

theorem Rounded.le {m z : ℤ} (h : Rounded m r) (hr : r ≤ z) : m ≤ z := by
  have hle := (h.nearest z).1
  rw [abs_of_nonneg (sub_nonneg.2 hr)] at hle
  have hm := (abs_le.1 hle).2
  exact_mod_cast (show (m : ℚ) ≤ z by linarith)

theorem Rounded.ge {m z : ℤ} (h : Rounded m r) (hr : (z : ℚ) ≤ r) : z ≤ m := by
  have hle := (h.nearest z).1
  rw [abs_sub_comm (z : ℚ), abs_of_nonneg (sub_nonneg.2 hr)] at hle
  have hm := (abs_le.1 hle).1
  exact_mod_cast (show (z : ℚ) ≤ m by linarith)

/-! ### Rounding to the format -/

/-- Of all binary64 numbers none is nearer, and another one that is as near has an odd mantissa. -/
structure Rounds (q : ℚ) (x : Binary64) : Prop where
  nearest : ∀ y : Binary64, |x.toRat - q| ≤ |y.toRat - q|
  even : ∀ y : Binary64, |x.toRat - q| = |y.toRat - q| →
    y.toRat = x.toRat ∨ x.mantissa % 2 = 0 ∧ y.mantissa % 2 = 1

theorem Rounds.unique (hx : Rounds q x) (hy : Rounds q y) : x.toRat = y.toRat := by
  have heq := le_antisymm (hx.nearest y) (hy.nearest x)
  rcases hx.even y heq with hxy | ⟨heven, -⟩
  · exact hxy.symm
  · rcases hy.even x heq.symm with hyx | ⟨-, hodd⟩
    · exact hyx
    · omega

theorem rounds_toRat (x : Binary64) : Rounds x.toRat x := by
  refine ⟨fun y => ?_, fun y hy => .inl ?_⟩
  · rw [sub_self, abs_zero]
    exact abs_nonneg _
  · rw [sub_self, abs_zero, eq_comm, abs_eq_zero, sub_eq_zero] at hy
    exact hy

theorem Rounds.abs_le (h : Rounds q x) (hy : |y.toRat| ≤ |q|) : |y.toRat| ≤ |x.toRat| := by
  let signed : Binary64 := ⟨decide (q < 0), y.mantissa, y.exponent, y.canonical⟩
  have hsigned : signed.toRat = factor (decide (q < 0)) * |y.toRat| := by rw [abs_toRat]; rfl
  have hq : q = factor (decide (q < 0)) * |q| := by
    by_cases hneg : q < 0
    · rw [decide_eq_true hneg, factor, if_pos rfl, abs_of_neg hneg, neg_mul_neg, one_mul]
    · rw [decide_eq_false hneg, factor, if_neg Bool.false_ne_true, one_mul,
        abs_of_nonneg (not_lt.1 hneg)]
  have hdistance : |signed.toRat - q| = |q| - |y.toRat| := by
    have hdifference : signed.toRat - q = factor (decide (q < 0)) * (|y.toRat| - |q|) := by
      rw [mul_sub, ← hq, hsigned]
    rw [hdifference, abs_mul, abs_factor, one_mul, abs_sub_comm, abs_of_nonneg (sub_nonneg.2 hy)]
  have hnearest := h.nearest signed
  have htriangle := abs_sub_abs_le_abs_sub q x.toRat
  rw [abs_sub_comm] at htriangle
  linarith

/-- A binary64 number is on the grid of the multiples of `2 ^ e`, unless it is below `2 ^ 52` of
them. -/
theorem exists_grid (y : Binary64) (negative : Bool) (e : ℤ) :
    (∃ z : ℤ, y.toRat = factor negative * (z * 2 ^ e) ∧ (z % 2 = 1 → y.mantissa % 2 = 1)) ∨
      |y.toRat| < 2 ^ 52 * 2 ^ e ∧ -1074 < e := by
  obtain ⟨hfull, hleast, -, -⟩ := y.canonical
  rcases le_or_gt e y.exponent with he | he
  · obtain ⟨k, hk⟩ := Int.eq_ofNat_of_zero_le (sub_nonneg.2 he)
    have hpow : (2 : ℚ) ^ y.exponent = 2 ^ k * 2 ^ e := by
      rw [← zpow_natCast, ← zpow_add₀ two_ne_zero]
      exact congrArg _ (by omega)
    refine .inl ⟨(if y.negative = negative then 1 else -1) * (y.mantissa * 2 ^ k), ?_,
      fun hodd => ?_⟩
    · rw [toRat, hpow]
      cases y.negative <;> cases negative <;> simp [factor] <;> ring
    · by_contra heven
      obtain ⟨half, hhalf⟩ := Nat.dvd_of_mod_eq_zero (show y.mantissa % 2 = 0 by omega)
      rw [hhalf, Nat.cast_mul, mul_assoc, mul_left_comm, Nat.cast_two, Int.mul_emod_right] at hodd
      exact absurd hodd (by decide)
  · refine .inr ⟨?_, by omega⟩
    have hbound : (y.mantissa : ℚ) < 2 ^ 53 := by exact_mod_cast hfull
    have hpow : (2 : ℚ) ^ y.exponent ≤ 2 ^ (e - 1) :=
      zpow_le_zpow_right₀ one_le_two (by omega)
    calc |y.toRat| = y.mantissa * 2 ^ y.exponent := abs_toRat y
      _ ≤ y.mantissa * 2 ^ (e - 1) := by gcongr
      _ < 2 ^ 53 * 2 ^ (e - 1) := by
        have := two_zpow_pos (e - 1)
        gcongr
      _ = 2 ^ 52 * 2 ^ e := by
        rw [zpow_sub_one₀ two_ne_zero]
        ring

theorem distance_scaled (negative : Bool) (a r : ℚ) (e : ℤ) :
    |factor negative * (a * 2 ^ e) - factor negative * (r * 2 ^ e)| = |a - r| * 2 ^ e := by
  rw [← mul_sub, ← sub_mul, abs_mul, abs_mul, abs_factor, one_mul, abs_of_pos (two_zpow_pos e)]

/-- The least number of the binade is on the grid, and nearer than what is below it. -/
theorem Rounded.lt_of_below_binade {m : ℤ} (h : Rounded m r) (hleast : (2 : ℚ) ^ 52 ≤ r)
    (hy : |y.toRat| < 2 ^ 52 * 2 ^ e) (negative : Bool) :
    |(m : ℚ) - r| * 2 ^ e < |y.toRat - factor negative * (r * 2 ^ e)| := by
  have hpow := two_zpow_pos e
  have hle : |(m : ℚ) - r| ≤ r - 2 ^ 52 := by
    have hnearest := (h.nearest (2 ^ 52)).1
    rw [Int.cast_pow, Int.cast_ofNat, abs_sub_comm (2 ^ 52 : ℚ),
      abs_of_nonneg (sub_nonneg.2 hleast)] at hnearest
    exact hnearest
  have hfar : r * 2 ^ e - |y.toRat| ≤ |y.toRat - factor negative * (r * 2 ^ e)| := by
    have htriangle := abs_sub_abs_le_abs_sub (factor negative * (r * 2 ^ e)) y.toRat
    rw [abs_mul, abs_factor, one_mul, abs_of_nonneg (by positivity), abs_sub_comm] at htriangle
    exact htriangle
  calc |(m : ℚ) - r| * 2 ^ e ≤ (r - 2 ^ 52) * 2 ^ e := by gcongr
    _ = r * 2 ^ e - 2 ^ 52 * 2 ^ e := sub_mul _ _ _
    _ < r * 2 ^ e - |y.toRat| := by linarith
    _ ≤ _ := hfar

/-- What is rounded to an integer on the grid of its last place is rounded in the format. -/
theorem rounds_of_rounded {m : ℕ} (hrounded : Rounded m r)
    (hbinade : -1074 < e → (2 : ℚ) ^ 52 ≤ r)
    (hx : x.toRat = factor negative * (m * 2 ^ e)) (hparity : m % 2 = 0 → x.mantissa % 2 = 0) :
    Rounds (factor negative * (r * 2 ^ e)) x := by
  have hpow := two_zpow_pos e
  refine ⟨fun y => ?_, fun y heq => ?_⟩
  · rw [hx, distance_scaled]
    rcases exists_grid y negative e with ⟨z, hy, -⟩ | ⟨hy, he⟩
    · rw [hy, distance_scaled]
      exact mul_le_mul_of_nonneg_right (hrounded.nearest z).1 hpow.le
    · exact (hrounded.lt_of_below_binade (hbinade he) hy negative).le
  · rw [hx, distance_scaled] at heq
    rcases exists_grid y negative e with ⟨z, hy, hodd⟩ | ⟨hy, he⟩
    · rw [hy, distance_scaled] at heq
      rcases (hrounded.nearest z).2 (mul_right_cancel₀ hpow.ne' heq) with rfl | ⟨heven, hz⟩
      · exact .inl (hy.trans hx.symm)
      · exact .inr ⟨hparity (by omega), hodd hz⟩
    · exact absurd heq (hrounded.lt_of_below_binade (hbinade he) hy negative).ne

/-! ### The binade -/

theorem log2_spec (hn : n ≠ 0) :
    (2 : ℚ) ^ (n.log2 : ℤ) ≤ n ∧ (n : ℚ) < 2 ^ ((n.log2 : ℤ) + 1) := by
  rw [zpow_natCast, ← Nat.cast_add_one, zpow_natCast]
  exact ⟨by exact_mod_cast Nat.log2_self_le hn,
    by exact_mod_cast (Nat.lt_log2_self : n < 2 ^ (n.log2 + 1))⟩

theorem scaleTwo_le_iff (n : ℕ) (hd : 0 < d) (e : ℤ) :
    (scaleTwo n d (-e)).2 ≤ (scaleTwo n d (-e)).1 ↔ (2 : ℚ) ^ e ≤ n / d := by
  have hpos : (0 : ℚ) < (scaleTwo n d (-e)).2 := by exact_mod_cast scaleTwo_pos n hd _
  rw [← Nat.cast_le (α := ℚ), ← one_le_div hpos, ratio_scaleTwo, zpow_neg, ← div_eq_mul_inv,
    one_le_div (two_zpow_pos e)]

theorem floorLog2_spec (hn : n ≠ 0) (hd : 0 < d) :
    (2 : ℚ) ^ floorLog2 n d ≤ n / d ∧ (n : ℚ) / d < 2 ^ (floorLog2 n d + 1) := by
  have hpos : (0 : ℚ) < d := by exact_mod_cast hd
  obtain ⟨hnlow, hnhigh⟩ := log2_spec hn
  obtain ⟨hdlow, hdhigh⟩ := log2_spec hd.ne'
  have hcompare := scaleTwo_le_iff n hd ((n.log2 : ℤ) - d.log2)
  have hlow : (2 : ℚ) ^ ((n.log2 : ℤ) - d.log2 - 1) ≤ n / d := by
    rw [le_div_iff₀ hpos]
    calc (2 : ℚ) ^ ((n.log2 : ℤ) - d.log2 - 1) * d
        ≤ 2 ^ ((n.log2 : ℤ) - d.log2 - 1) * 2 ^ ((d.log2 : ℤ) + 1) := by gcongr
      _ = 2 ^ (n.log2 : ℤ) := by
        rw [← zpow_add₀ two_ne_zero]
        exact congrArg _ (by omega)
      _ ≤ n := hnlow
  have hhigh : (n : ℚ) / d < 2 ^ ((n.log2 : ℤ) - d.log2 + 1) := by
    rw [div_lt_iff₀ hpos]
    calc (n : ℚ) < 2 ^ ((n.log2 : ℤ) + 1) := hnhigh
      _ = 2 ^ ((n.log2 : ℤ) - d.log2 + 1) * 2 ^ (d.log2 : ℤ) := by
        rw [← zpow_add₀ two_ne_zero]
        exact congrArg _ (by omega)
      _ ≤ 2 ^ ((n.log2 : ℤ) - d.log2 + 1) * d := by gcongr
  rw [floorLog2]
  split
  · next hguess => exact ⟨hcompare.1 hguess, hhigh⟩
  · next hguess =>
    rw [sub_add_cancel]
    exact ⟨hlow, not_le.1 (mt hcompare.2 hguess)⟩

/-- The exponent of the last place to which a fraction is rounded. -/
def lastPlace (n d : ℕ) : ℤ := max (floorLog2 n d - 52) (-1074)

/-- The fraction in units of its last place. -/
def inPlaces (n d : ℕ) : ℚ := n / d * 2 ^ (-lastPlace n d)

/-- The rounded fraction in units of its last place. -/
def places (n d : ℕ) : ℕ :=
  roundHalfEven (scaleTwo n d (-lastPlace n d)).1 (scaleTwo n d (-lastPlace n d)).2

theorem inPlaces_mul (n d : ℕ) : inPlaces n d * 2 ^ lastPlace n d = n / d := by
  rw [inPlaces, mul_assoc, ← zpow_add₀ two_ne_zero, neg_add_cancel, zpow_zero, mul_one]

theorem rounded_places (n : ℕ) (hd : 0 < d) : Rounded (places n d) (inPlaces n d) := by
  rw [inPlaces, ← ratio_scaleTwo]
  exact rounded_roundHalfEven _ (scaleTwo_pos n hd _)

theorem le_inPlaces (hn : n ≠ 0) (hd : 0 < d) (he : -1074 < lastPlace n d) :
    (2 : ℚ) ^ 52 ≤ inPlaces n d := by
  obtain ⟨hlow, -⟩ := floorLog2_spec hn hd
  have hplace : lastPlace n d = floorLog2 n d - 52 := by
    rw [lastPlace] at he ⊢
    omega
  rw [← mul_le_mul_iff_left₀ (two_zpow_pos (lastPlace n d)), inPlaces_mul, hplace]
  calc (2 : ℚ) ^ 52 * 2 ^ (floorLog2 n d - 52) = 2 ^ floorLog2 n d := by
        rw [← zpow_natCast, ← zpow_add₀ two_ne_zero]
        exact congrArg _ (by omega)
    _ ≤ n / d := hlow

theorem inPlaces_lt (hn : n ≠ 0) (hd : 0 < d) : inPlaces n d < 2 ^ 53 := by
  obtain ⟨-, hhigh⟩ := floorLog2_spec hn hd
  rw [← mul_lt_mul_iff_left₀ (two_zpow_pos (lastPlace n d)), inPlaces_mul]
  calc (n : ℚ) / d < 2 ^ (floorLog2 n d + 1) := hhigh
    _ ≤ 2 ^ (53 + lastPlace n d) := by
      refine zpow_le_zpow_right₀ one_le_two ?_
      rw [lastPlace]
      omega
    _ = 2 ^ 53 * 2 ^ lastPlace n d := by
      rw [zpow_add₀ two_ne_zero]
      rfl

theorem places_le (hn : n ≠ 0) (hd : 0 < d) : places n d ≤ 0x20000000000000 := by
  have hle : (places n d : ℤ) ≤ 2 ^ 53 :=
    (rounded_places n hd).le (by exact_mod_cast (inPlaces_lt hn hd).le)
  omega

theorem le_places (hn : n ≠ 0) (hd : 0 < d) (he : -1074 < lastPlace n d) :
    0x10000000000000 ≤ places n d := by
  have hle : (2 : ℤ) ^ 52 ≤ places n d :=
    (rounded_places n hd).ge (by exact_mod_cast le_inPlaces hn hd he)
  omega

/-! ### Fractions and decimals -/

theorem ofFraction?_eq (hn : n ≠ 0) (negative : Bool) (d : ℕ) :
    ofFraction? negative n d =
      let m := if places n d = 0x20000000000000 then 0x10000000000000 else places n d
      let e := if places n d = 0x20000000000000 then lastPlace n d + 1 else lastPlace n d
      if h : m < 0x20000000000000 ∧ -1074 ≤ e ∧ e ≤ 971 ∧ (0x10000000000000 ≤ m ∨ e = -1074) then
        some ⟨negative, m, e, h⟩
      else none := by
  rw [ofFraction?, if_neg hn]
  rfl

theorem rounds_of_ofFraction? (hd : 0 < d) (h : ofFraction? negative n d = some x) :
    Rounds (factor negative * (n / d)) x := by
  by_cases hn : n = 0
  · rw [ofFraction?, if_pos hn] at h
    obtain rfl := Option.some.inj h
    have hzero : factor negative * ((n : ℚ) / d) = (zero negative).toRat := by
      rw [hn, Nat.cast_zero, zero_div, mul_zero, toRat_zero]
    rw [hzero]
    exact rounds_toRat _
  · rw [ofFraction?_eq hn] at h
    obtain ⟨hcanonical, hx⟩ := Option.dite_none_right_eq_some.1 h
    obtain rfl := Option.some.inj hx
    rw [← inPlaces_mul]
    refine rounds_of_rounded (rounded_places n hd) (le_inPlaces hn hd) ?_ fun heven => ?_
    · rw [toRat]
      dsimp only
      split
      · next hcarry =>
        rw [hcarry, zpow_add_one₀ two_ne_zero]
        push_cast
        ring
      · rfl
    · dsimp only
      split
      · rfl
      · exact heven

theorem le_of_ofFraction?_eq_none (hd : 0 < d) (h : ofFraction? negative n d = none) :
    (2 : ℚ) ^ 1023 ≤ n / d := by
  by_cases hn : n = 0
  · rw [ofFraction?, if_pos hn] at h
    exact absurd h (Option.some_ne_none _)
  · rw [ofFraction?_eq hn, dite_eq_right_iff] at h
    have hle := places_le hn hd
    have hge := le_places hn hd
    have hleast : -1074 ≤ lastPlace n d := le_max_right _ _
    have hlarge : 971 ≤ lastPlace n d := by
      by_contra hsmall
      refine absurd (h ?_) (Option.some_ne_none _)
      split <;> omega
    rw [← inPlaces_mul]
    calc (2 : ℚ) ^ 1023 = 2 ^ 52 * 2 ^ (971 : ℤ) := by
          rw [← zpow_natCast, ← zpow_natCast, ← zpow_add₀ two_ne_zero]
          rfl
      _ ≤ inPlaces n d * 2 ^ lastPlace n d := by
        have hfull := le_inPlaces hn hd (by omega)
        gcongr
        exact one_le_two

/-- A negative power of ten is at most that power of eight, so the exponent of the size decides. -/
theorem decimal_lt {digits : ℕ} {scale : ℤ} (hdigits : digits ≠ 0) (hscale : scale < 0)
    (hsmall : (Nat.log2 digits : ℤ) + 1 + 3 * scale < -1080) :
    (digits : ℚ) * 10 ^ scale < 2 ^ (-1080 : ℤ) := by
  obtain ⟨-, hhigh⟩ := log2_spec hdigits
  have hpower : (10 : ℚ) ^ scale ≤ 2 ^ (3 * scale) := by
    obtain ⟨k, hk⟩ := Int.eq_ofNat_of_zero_le (show 0 ≤ -scale by omega)
    rw [zpow_mul, show (2 : ℚ) ^ (3 : ℤ) = 8 by norm_num, show scale = -(k : ℤ) by omega, zpow_neg,
      zpow_neg, zpow_natCast, zpow_natCast]
    gcongr
    norm_num
  calc (digits : ℚ) * 10 ^ scale ≤ digits * 2 ^ (3 * scale) := by gcongr
    _ < 2 ^ ((digits.log2 : ℤ) + 1) * 2 ^ (3 * scale) := by
      have hpos := two_zpow_pos (3 * scale)
      gcongr
    _ = 2 ^ ((digits.log2 : ℤ) + 1 + 3 * scale) := (zpow_add₀ two_ne_zero _ _).symm
    _ ≤ 2 ^ (-1080 : ℤ) := zpow_le_zpow_right₀ one_le_two hsmall.le

theorem rounds_zero (hq : |q| < 2 ^ (-1080 : ℤ)) (negative : Bool) : Rounds q (zero negative) := by
  have hcloser : ∀ y : Binary64, y.mantissa ≠ 0 → |(0 : ℚ) - q| < |y.toRat - q| := fun y hy => by
    have hleast : (2 : ℚ) ^ (-1074 : ℤ) ≤ |y.toRat| := by
      rw [abs_toRat]
      have hone : (1 : ℚ) ≤ y.mantissa := by exact_mod_cast Nat.one_le_iff_ne_zero.2 hy
      calc (2 : ℚ) ^ (-1074 : ℤ) ≤ 2 ^ y.exponent :=
            zpow_le_zpow_right₀ one_le_two y.canonical.2.1
        _ ≤ y.mantissa * 2 ^ y.exponent :=
          le_mul_of_one_le_left (two_zpow_pos _).le hone
    have hhalf : (2 : ℚ) ^ (-1080 : ℤ) + 2 ^ (-1080 : ℤ) ≤ 2 ^ (-1074 : ℤ) := by
      rw [← two_mul, ← zpow_one_add₀ two_ne_zero]
      exact zpow_le_zpow_right₀ one_le_two (by decide)
    have htriangle := abs_sub_abs_le_abs_sub y.toRat q
    rw [zero_sub, abs_neg]
    linarith
  have hzero : ∀ y : Binary64, y.mantissa = 0 → y.toRat = 0 := fun y hy => by
    rw [toRat, hy, Nat.cast_zero, zero_mul, mul_zero]
  refine ⟨fun y => ?_, fun y heq => ?_⟩
  · rw [toRat_zero]
    by_cases hy : y.mantissa = 0
    · rw [hzero y hy]
    · exact (hcloser y hy).le
  · rw [toRat_zero] at heq ⊢
    by_cases hy : y.mantissa = 0
    · exact .inl (hzero y hy)
    · exact absurd heq (hcloser y hy).ne

theorem rounds_of_ofDecimal? {digits : ℕ} {scale : ℤ}
    (h : ofDecimal? negative digits scale = some x) :
    Rounds (factor negative * (digits * 10 ^ scale)) x := by
  rw [ofDecimal?] at h
  split at h
  · next hzero =>
    obtain rfl := Option.some.inj h
    have hvalue : factor negative * ((digits : ℚ) * 10 ^ scale) = (zero negative).toRat := by
      rw [hzero, Nat.cast_zero, zero_mul, mul_zero, toRat_zero]
    rw [hvalue]
    exact rounds_toRat _
  · next hdigits =>
    split at h
    · exact absurd h.symm (Option.some_ne_none x)
    · split at h
      · next htiny =>
        obtain rfl := Option.some.inj h
        refine rounds_zero ?_ negative
        rw [abs_mul, abs_factor, one_mul, abs_of_nonneg (by positivity)]
        exact decimal_lt hdigits htiny.1 htiny.2
      · have hratio := ratio_scaleTen digits 1 scale
        rw [Nat.cast_one, div_one] at hratio
        rw [← hratio]
        exact rounds_of_ofFraction? (scaleTen_pos digits Nat.one_pos scale) h

theorem le_of_ofDecimal?_eq_none {digits : ℕ} {scale : ℤ}
    (h : ofDecimal? negative digits scale = none) : (2 : ℚ) ^ 1023 ≤ digits * 10 ^ scale := by
  rw [ofDecimal?] at h
  split at h
  · exact absurd h (Option.some_ne_none _)
  · next hdigits =>
    split at h
    · next hlarge =>
      have hone : (1 : ℚ) ≤ digits := by exact_mod_cast Nat.one_le_iff_ne_zero.2 hdigits
      calc (2 : ℚ) ^ 1023 ≤ 2 ^ (3 * 400) := pow_le_pow_right₀ one_le_two (by decide)
        _ = 8 ^ 400 := by rw [pow_mul, show (2 : ℚ) ^ 3 = 8 by norm_num]
        _ ≤ 10 ^ 400 := pow_le_pow_left₀ (by norm_num) (by norm_num) 400
        _ = 10 ^ (400 : ℤ) := (zpow_natCast 10 400).symm
        _ ≤ 10 ^ scale := zpow_le_zpow_right₀ (by norm_num) hlarge.le
        _ ≤ digits * 10 ^ scale := le_mul_of_one_le_left (by positivity) hone
    · split at h
      · exact absurd h (Option.some_ne_none _)
      · have hratio := ratio_scaleTen digits 1 scale
        rw [Nat.cast_one, div_one] at hratio
        rw [← hratio]
        exact le_of_ofFraction?_eq_none (scaleTen_pos digits Nat.one_pos scale) h

end Binary64

end FormTree
