import Elementwise.Number.Basic
import Mathlib.Algebra.Order.Field.Power
import Mathlib.Data.Rat.Floor
import Mathlib.Tactic

/-!
# Rounding of values with few bits

A multiple of its own unit in the last place is rounded to itself. The integers below `2 ^ 53` are
such multiples.
-/

namespace Elementwise.Binary64

/-! ### Powers of a base -/

lemma mkRat_pow_one (b n : Nat) : mkRat (Nat.pow b n) 1 = (b : ℚ) ^ Int.ofNat n := by
  rw [Rat.mkRat_eq_div, Nat.pow_eq, Int.ofNat_eq_natCast, zpow_natCast]
  push_cast
  ring

lemma mkRat_one_pow (b n : Nat) : mkRat 1 (Nat.pow b (n + 1)) = (b : ℚ) ^ Int.negSucc n := by
  rw [Rat.mkRat_eq_div, Nat.pow_eq, zpow_negSucc]
  push_cast
  ring

/-- The quotient of the leading powers is off by at most one. -/
lemma zpow_quotient_bounds {b p q : ℚ} (hb : 0 < b) {m n : Int} (hp : b ^ m ≤ p ∧ p < b ^ (m + 1))
    (hq : b ^ n ≤ q ∧ q < b ^ (n + 1)) : b ^ (m - n - 1) < p / q ∧ p / q < b ^ (m - n + 1) := by
  have hqPos : 0 < q := (zpow_pos hb n).trans_le hq.1
  constructor
  · rw [lt_div_iff₀ hqPos]
    calc b ^ (m - n - 1) * q < b ^ (m - n - 1) * b ^ (n + 1) :=
          mul_lt_mul_of_pos_left hq.2 (zpow_pos hb _)
      _ = b ^ m := by
          rw [← zpow_add₀ hb.ne']
          congr 1
          ring
      _ ≤ p := hp.1
  · rw [div_lt_iff₀ hqPos]
    calc p < b ^ (m + 1) := hp.2
      _ = b ^ (m - n + 1) * b ^ n := by
          rw [← zpow_add₀ hb.ne']
          congr 1
          ring
      _ ≤ b ^ (m - n + 1) * q := mul_le_mul_of_nonneg_left hq.1 (zpow_pos hb _).le

/-- The leading power of a rational from those of its numerator and its denominator, the estimate
corrected by one where it is too large. -/
lemma leading_zpow_spec {b q : ℚ} (hb : 0 < b) {m n : Int} (hq : 0 < q)
    (hnum : b ^ m ≤ q.num.natAbs ∧ q.num.natAbs < b ^ (m + 1))
    (hden : b ^ n ≤ q.den ∧ q.den < b ^ (n + 1)) :
    b ^ (if b ^ (m - n) ≤ q then m - n else m - n - 1) ≤ q ∧
      q < b ^ ((if b ^ (m - n) ≤ q then m - n else m - n - 1) + 1) := by
  have hquot : (q.num.natAbs : ℚ) / q.den = q := by
    rw [Nat.cast_natAbs, abs_of_pos (Rat.num_pos.mpr hq), Rat.num_div_den]
  obtain ⟨hlow, hhigh⟩ := zpow_quotient_bounds hb hnum hden
  rw [hquot] at hlow hhigh
  split
  · rename_i h
    exact ⟨h, hhigh⟩
  · rename_i h
    rw [sub_add_cancel]
    exact ⟨hlow.le, not_le.mp h⟩

/-! ### Binary exponents -/

lemma twoPow_eq_zpow (e : Int) : twoPow e = (2 : ℚ) ^ e := by
  cases e with
  | ofNat n => exact mkRat_pow_one 2 n
  | negSucc n => exact mkRat_one_pow 2 n

lemma zpow_log2_bounds {n : Nat} (hn : n ≠ 0) :
    (2 : ℚ) ^ (n.log2 : Int) ≤ n ∧ (n : ℚ) < 2 ^ ((n.log2 : Int) + 1) := by
  constructor
  · rw [zpow_natCast]
    exact_mod_cast Nat.log2_self_le hn
  · exact_mod_cast Nat.lt_log2_self

/-- The exponent of a positive rational. -/
lemma exponent_spec {q : ℚ} (hq : 0 < q) :
    (2 : ℚ) ^ exponent q ≤ q ∧ q < (2 : ℚ) ^ (exponent q + 1) := by
  have hne : q.num.natAbs ≠ 0 := Int.natAbs_ne_zero.mpr (Rat.num_pos.mpr hq).ne'
  have hspec := leading_zpow_spec two_pos hq (zpow_log2_bounds hne) (zpow_log2_bounds q.den_nz)
  simpa only [exponent, twoPow_eq_zpow] using hspec

/-! ### Values with few bits -/

lemma nearestInt_intCast (n : Int) : nearestInt (n : ℚ) = n := by
  simp [nearestInt, Rat.floor_intCast, Rat.mkRat_eq_div]

/-- A multiple of its own unit is its own nearest value. -/
lemma nearest_eq_self {q : ℚ} {n : Int} (hn : q = n * (2 : ℚ) ^ unitExponent q)
    (hrange : q < 2 ^ 1024) : nearest q = some q := by
  have hunit : (2 : ℚ) ^ unitExponent q ≠ 0 := (zpow_pos two_pos _).ne'
  have hquot : q / (2 : ℚ) ^ unitExponent q = n := by
    rw [div_eq_iff hunit]
    exact hn
  simp only [nearest, twoPow_eq_zpow]
  rw [hquot, nearestInt_intCast, ← hn, if_pos]
  exact_mod_cast hrange

/-- The natural numbers below `2 ^ 53` are represented exactly. -/
lemma nearest_natCast {n : Nat} (hpos : 0 < n) (h : n < 2 ^ 53) :
    nearest (n : ℚ) = some (n : ℚ) := by
  have hq : (0 : ℚ) < n := by exact_mod_cast hpos
  obtain ⟨hlow, hhigh⟩ := exponent_spec hq
  have hexpLow : -1 < exponent (n : ℚ) := by
    have : (2 : ℚ) ^ (0 : Int) < (2 : ℚ) ^ (exponent (n : ℚ) + 1) := by
      calc (2 : ℚ) ^ (0 : Int) = 1 := zpow_zero 2
        _ ≤ n := by exact_mod_cast hpos
        _ < _ := hhigh
    have := (zpow_lt_zpow_iff_right₀ (one_lt_two : (1 : ℚ) < 2)).mp this
    omega
  have hexpHigh : exponent (n : ℚ) < 53 := by
    have : (2 : ℚ) ^ exponent (n : ℚ) < (2 : ℚ) ^ (53 : Int) := by
      calc (2 : ℚ) ^ exponent (n : ℚ) ≤ n := hlow
        _ < (2 : ℚ) ^ (53 : Int) := by exact_mod_cast h
    exact (zpow_lt_zpow_iff_right₀ (one_lt_two : (1 : ℚ) < 2)).mp this
  have hunit : unitExponent (n : ℚ) = -((52 - exponent (n : ℚ)).toNat : Int) := by
    rw [unitExponent, if_neg (by omega)]
    omega
  -- the unit divides one, and so every integer
  apply nearest_eq_self (n := (n : Int) * 2 ^ (52 - exponent (n : ℚ)).toNat)
  · rw [hunit, zpow_neg, zpow_natCast]
    push_cast
    rw [mul_assoc, mul_inv_cancel₀ (pow_ne_zero _ two_ne_zero), mul_one]
  · calc (n : ℚ) < 2 ^ 53 := by exact_mod_cast h
      _ ≤ 2 ^ 1024 := pow_le_pow_right₀ one_le_two (by norm_num)

end Elementwise.Binary64
