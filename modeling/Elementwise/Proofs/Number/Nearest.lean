import Elementwise.Proofs.Number.Rounding

/-!
# The error of rounding

The nearest binary64 value is at most half a unit in the last place away, and it is the only
multiple of the unit that is nearer than that. Rounding twice is rounding once. A value that differs
from a binary64 value by less than one part in `2 * 10 ^ 16` is rounded to it, which is why
seventeen decimal digits identify a binary64 value.
-/

namespace Elementwise.Binary64

/-! ### The nearest integer -/

lemma abs_nearestInt_sub_le (q : ℚ) : |(nearestInt q : ℚ) - q| ≤ 1 / 2 := by
  have hlow := Rat.floor_le q
  have hhigh := Rat.lt_floor_add_one q
  push_cast at hhigh
  have hhalf : mkRat 1 2 = (1 / 2 : ℚ) := by norm_num [Rat.mkRat_eq_div]
  rw [nearestInt, hhalf, abs_le]
  split_ifs <;> push_cast <;> constructor <;> linarith

/-- No other integer is as near as half a step. -/
lemma nearestInt_eq {q : ℚ} {n : Int} (h : |q - n| < 1 / 2) : nearestInt q = n := by
  have hnear := abs_nearestInt_sub_le q
  have hdist : |((nearestInt q - n : Int) : ℚ)| < 1 := by
    calc |((nearestInt q - n : Int) : ℚ)| = |((nearestInt q : ℚ) - q) + (q - n)| := by
          push_cast
          ring_nf
      _ ≤ |(nearestInt q : ℚ) - q| + |q - n| := abs_add_le _ _
      _ < 1 := by linarith
  have habs : |nearestInt q - n| < 1 := by exact_mod_cast hdist
  rw [Int.abs_lt_one_iff] at habs
  omega

/-- Rounding to an integer does not go past an integer. -/
lemma nearestInt_le {q : ℚ} {n : Int} (h : q ≤ n) : nearestInt q ≤ n := by
  by_contra hlt
  have hstep : (n : ℚ) + 1 ≤ nearestInt q := by exact_mod_cast not_le.mp hlt
  have hnear := (abs_le.mp (abs_nearestInt_sub_le q)).2
  linarith

lemma le_nearestInt {q : ℚ} {n : Int} (h : n ≤ q) : n ≤ nearestInt q := by
  by_contra hlt
  have hstep : (nearestInt q : ℚ) + 1 ≤ n := by exact_mod_cast not_le.mp hlt
  have hnear := (abs_le.mp (abs_nearestInt_sub_le q)).1
  linarith

/-! ### Units -/

def unit (q : ℚ) : ℚ := 2 ^ unitExponent q

lemma unit_pos (q : ℚ) : 0 < unit q := zpow_pos two_pos _

lemma nearest_eq_ite (q : ℚ) :
    nearest q =
      if (nearestInt (q / unit q) : ℚ) * unit q < 2 ^ 1024 then
        some ((nearestInt (q / unit q) : ℚ) * unit q)
      else none := by
  simp only [nearest, twoPow_eq_zpow, unit]
  norm_cast

lemma eq_of_nearest {q r : ℚ} (h : nearest q = some r) :
    r = nearestInt (q / unit q) * unit q ∧ r < 2 ^ 1024 := by
  rw [nearest_eq_ite] at h
  split at h
  · rename_i hlt
    rw [Option.some.injEq] at h
    exact ⟨h.symm, h ▸ hlt⟩
  · cases h

/-- The rounding error is at most half a unit. -/
lemma abs_nearestInt_mul_unit_sub_le (q : ℚ) :
    |(nearestInt (q / unit q) : ℚ) * unit q - q| ≤ unit q / 2 := by
  have hunit := unit_pos q
  have hfactor : (nearestInt (q / unit q) : ℚ) * unit q - q =
      ((nearestInt (q / unit q) : ℚ) - q / unit q) * unit q := by
    rw [sub_mul, div_mul_cancel₀ q hunit.ne']
  rw [hfactor, abs_mul, abs_of_pos hunit]
  calc |(nearestInt (q / unit q) : ℚ) - q / unit q| * unit q ≤ 1 / 2 * unit q :=
        mul_le_mul_of_nonneg_right (abs_nearestInt_sub_le _) hunit.le
    _ = unit q / 2 := by ring

/-- A multiple of the unit that is nearer than half a unit is the nearest value. -/
lemma nearest_eq_of_abs_sub_lt {q r : ℚ} {n : Int} (hn : r = n * unit q)
    (h : |q - r| < unit q / 2) (hrange : r < 2 ^ 1024) : nearest q = some r := by
  have hunit := unit_pos q
  have hnear : |q / unit q - n| < 1 / 2 := by
    have hfactor : q / unit q - n = (q - r) / unit q := by
      rw [hn, sub_div, mul_div_cancel_right₀ _ hunit.ne']
    rw [hfactor, abs_div, abs_of_pos hunit, div_lt_iff₀ hunit]
    linarith
  rw [nearest_eq_ite, nearestInt_eq hnear, ← hn, if_pos hrange]

/-! ### Exponents -/

lemma zpow_le_zpow_two_iff {m n : Int} : (2 : ℚ) ^ m ≤ 2 ^ n ↔ m ≤ n :=
  zpow_le_zpow_iff_right₀ one_lt_two

lemma zpow_lt_zpow_two_iff {m n : Int} : (2 : ℚ) ^ m < 2 ^ n ↔ m < n :=
  zpow_lt_zpow_iff_right₀ one_lt_two

lemma le_exponent_iff {q : ℚ} (hq : 0 < q) {e : Int} : e ≤ exponent q ↔ (2 : ℚ) ^ e ≤ q := by
  obtain ⟨hlow, hhigh⟩ := exponent_spec hq
  constructor
  · exact fun h => (zpow_le_zpow_two_iff.mpr h).trans hlow
  · intro h
    have := zpow_lt_zpow_two_iff.mp (h.trans_lt hhigh)
    omega

lemma unitExponent_eq_max (q : ℚ) : unitExponent q = max (exponent q - 52) (-1074) := by
  rw [unitExponent]
  split <;> omega

/-- In the normal range the unit is the leading power of two divided by `2 ^ 52`. -/
lemma unit_eq_div {q : ℚ} (h : 2 ^ (-1022 : Int) ≤ q) : unit q = 2 ^ exponent q / 2 ^ 52 := by
  have hexp : -1022 ≤ exponent q :=
    (le_exponent_iff ((zpow_pos two_pos _).trans_le h)).mpr h
  have hunit : unitExponent q = exponent q - 52 := by
    rw [unitExponent_eq_max]
    omega
  rw [unit, hunit, zpow_sub₀ two_ne_zero]
  norm_cast

/-- A power of two is a multiple of every smaller one. -/
lemma exists_int_mul_zpow {m n : Int} (h : m ≤ n) : ∃ k : Int, (2 : ℚ) ^ n = k * 2 ^ m := by
  refine ⟨2 ^ (n - m).toNat, ?_⟩
  push_cast
  rw [← zpow_natCast, ← zpow_add₀ two_ne_zero]
  congr 1
  omega

/-! ### Binary64 values -/

/-- A binary64 value is a multiple of its unit. -/
lemma exists_eq_mul_unit {q r : ℚ} (h : nearest q = some r) : ∃ n : Int, r = n * unit q :=
  ⟨_, (eq_of_nearest h).1⟩

/-- Rounding twice is rounding once. -/
lemma nearest_of_nearest {q r : ℚ} (hq : 0 < q) (h : nearest q = some r) (hr : 0 < r) :
    nearest r = some r := by
  obtain ⟨hround, hrange⟩ := eq_of_nearest h
  suffices hmultiple : ∃ n : Int, r = n * 2 ^ unitExponent r by
    obtain ⟨n, hn⟩ := hmultiple
    exact nearest_eq_self hn hrange
  rcases le_or_gt (unitExponent r) (unitExponent q) with hle | hgt
  · -- the unit of the argument is a multiple of the unit of the result
    obtain ⟨k, hk⟩ := exists_int_mul_zpow hle
    refine ⟨nearestInt (q / unit q) * k, ?_⟩
    rw [Int.cast_mul, mul_assoc, ← hk]
    exact hround
  · -- the argument was rounded up to the next power of two
    have hexp : exponent q + 1 ≤ exponent r ∧ unitExponent r = exponent r - 52 := by
      rw [unitExponent_eq_max, unitExponent_eq_max] at *
      omega
    obtain ⟨k, hk⟩ := exists_int_mul_zpow (show unitExponent q ≤ exponent r by omega)
    have hbelow : q ≤ 2 ^ exponent r :=
      (exponent_spec hq).2.le.trans (zpow_le_zpow_two_iff.mpr hexp.1)
    have hle : nearestInt (q / unit q) ≤ k := by
      apply nearestInt_le
      rw [div_le_iff₀ (unit_pos q), unit, ← hk]
      exact hbelow
    have heq : r = 2 ^ exponent r := by
      apply le_antisymm _ (exponent_spec hr).1
      rw [hk]
      calc r = nearestInt (q / unit q) * unit q := hround
        _ ≤ k * unit q := mul_le_mul_of_nonneg_right (by exact_mod_cast hle) (unit_pos q).le
    obtain ⟨n, hn⟩ := exists_int_mul_zpow (show unitExponent r ≤ exponent r by omega)
    exact ⟨n, heq.trans hn⟩

/-- A value that differs from a binary64 value by less than the seventeenth digit is rounded to
it. -/
lemma nearest_eq_of_abs_sub_le {q r : ℚ} (hr : nearest r = some r) (hone : 1 ≤ r)
    (h : |q - r| ≤ r / (2 * 10 ^ 16)) : nearest q = some r := by
  obtain ⟨hbelow, habove⟩ := abs_le.mp h
  have hnormal : (2 : ℚ) ^ (-1022 : Int) ≤ 1 / 2 := by
    rw [one_div, ← zpow_neg_one]
    exact zpow_le_zpow_two_iff.mpr (by norm_num)
  have hqUnit := unit_eq_div (show (2 : ℚ) ^ (-1022 : Int) ≤ q by linarith)
  have hrUnit := unit_eq_div (show (2 : ℚ) ^ (-1022 : Int) ≤ r by linarith)
  obtain ⟨hqLow, hqHigh⟩ := exponent_spec (show 0 < q by linarith)
  obtain ⟨hrLow, hrHigh⟩ := exponent_spec (show 0 < r by linarith)
  rw [zpow_add_one₀ two_ne_zero] at hqHigh hrHigh
  obtain ⟨n, hn⟩ := exists_eq_mul_unit hr
  -- no power of two lies above the value and not above the argument
  have hexp : exponent q ≤ exponent r := by
    by_contra hlt
    have hstep : (2 : ℚ) ^ (exponent r + 1) ≤ 2 ^ exponent q := zpow_le_zpow_two_iff.mpr (by omega)
    rw [zpow_add_one₀ two_ne_zero] at hstep
    have hcount : n + 1 ≤ 2 ^ 53 := by
      have : (n : ℚ) * unit r < 2 ^ 53 * unit r := by
        rw [← hn, hrUnit]
        linarith
      exact_mod_cast lt_of_mul_lt_mul_right this (unit_pos r).le
    have hgap : r + unit r ≤ 2 ^ 53 * unit r := by
      calc r + unit r = (n + 1 : ℚ) * unit r := by rw [add_mul, ← hn, one_mul]
        _ ≤ 2 ^ 53 * unit r := mul_le_mul_of_nonneg_right (by exact_mod_cast hcount) (unit_pos r).le
    rw [hrUnit] at hgap
    linarith
  obtain ⟨k, hk⟩ := exists_int_mul_zpow
    (show unitExponent q ≤ unitExponent r by rw [unitExponent_eq_max, unitExponent_eq_max]; omega)
  apply nearest_eq_of_abs_sub_lt (n := n * k)
  · rw [Int.cast_mul, mul_assoc, unit, ← hk]
    exact hn
  · rw [hqUnit]
    apply h.trans_lt
    linarith
  · exact (eq_of_nearest hr).2

end Elementwise.Binary64
