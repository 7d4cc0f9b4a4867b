import Elementwise.Proofs.Number.Nearest
import Elementwise.Proofs.Number.Order
import Elementwise.Proofs.Number.Printer

/-!
# Products and quotients of small integers

Below `2 ^ 53` a product of natural numbers is exact. A quotient is rounded, but the error is
smaller than the distance to the nearest integer that the quotient does not equal, so rounding never
crosses an integer: the floor and the ceiling of the rounded quotient are those of the exact one.
-/

namespace Elementwise

namespace Binary64

variable {a b : ℕ} {r : ℚ}

/-- The quotient of numbers below `2 ^ 53` is rounded by less than one part of the divisor. -/
lemma exists_nearest_div (ha : 0 < a) (haLt : a < 2 ^ 53) (hb : 0 < b) (hbLt : b < 2 ^ 53) :
    ∃ r, nearest ((a : ℚ) / b) = some r ∧ |r - a / b| < 1 / b := by
  have haPos : (1 : ℚ) ≤ a := by exact_mod_cast ha
  have haMax : (a : ℚ) < 2 ^ 53 := by exact_mod_cast haLt
  have hbPos : (1 : ℚ) ≤ b := by exact_mod_cast hb
  have hbMax : (b : ℚ) < 2 ^ 53 := by exact_mod_cast hbLt
  have hq : (0 : ℚ) < a / b := by positivity
  have hnormal : (2 : ℚ) ^ (-1022 : Int) ≤ a / b := by
    rw [le_div_iff₀ (by linarith)]
    calc (2 : ℚ) ^ (-1022 : Int) * b ≤ 2 ^ (-53 : Int) * 2 ^ 53 := by
          gcongr
          · norm_num
          · norm_num
      _ ≤ a := by simpa using haPos
  -- the quotient is a normal number, so its unit is smaller by 52 binary places
  have hunit : unit ((a : ℚ) / b) / 2 < 1 / b := by
    calc unit ((a : ℚ) / b) / 2 ≤ a / b / 2 ^ 53 := by
          rw [unit_eq_div hnormal]
          have := (exponent_spec hq).1
          linarith
      _ < 2 ^ 53 / b / 2 ^ 53 := by gcongr
      _ = 1 / b := by ring
  have herror := abs_nearestInt_mul_unit_sub_le ((a : ℚ) / b)
  refine ⟨_, ?_, herror.trans_lt hunit⟩
  rw [nearest_eq_ite, if_pos]
  have habove := (abs_le.mp herror).2
  have hquot : (a : ℚ) / b ≤ 2 ^ 53 := by
    rw [div_le_iff₀ (by linarith)]
    nlinarith
  have hone : (1 : ℚ) / b ≤ 1 := by
    rw [div_le_one (by linarith)]
    exact hbPos
  calc (nearestInt ((a : ℚ) / b / unit (a / b)) : ℚ) * unit (a / b) ≤ 2 ^ 54 := by linarith
    _ < 2 ^ 1024 := pow_lt_pow_right₀ one_lt_two (by norm_num)

/-- A quotient that is not the integer `n` is at least one part of the divisor away from it. -/
lemma one_div_le_abs_sub (hb : 0 < b) {n : Int} (h : (n : ℚ) ≠ a / b) :
    1 / (b : ℚ) ≤ |(n : ℚ) - a / b| := by
  have hbPos : (0 : ℚ) < b := by exact_mod_cast hb
  have hne : n * b - a ≠ 0 := by
    intro hzero
    apply h
    rw [eq_div_iff hbPos.ne']
    exact_mod_cast sub_eq_zero.mp hzero
  have hint : (1 : ℚ) ≤ |(n : ℚ) * b - a| := by exact_mod_cast Int.one_le_abs hne
  have hfactor : (n : ℚ) - a / b = (n * b - a) / b := by
    rw [sub_div, mul_div_cancel_right₀ _ hbPos.ne']
  rw [hfactor, abs_div, abs_of_pos hbPos]
  exact div_le_div_of_nonneg_right hint hbPos.le

/-- Rounding a quotient does not cross an integer. -/
lemma compare_nearest_div (ha : 0 < a) (haLt : a < 2 ^ 53) (hb : 0 < b) (hbLt : b < 2 ^ 53)
    (h : nearest ((a : ℚ) / b) = some r) (n : Int) :
    ((n : ℚ) ≤ r ↔ (n : ℚ) ≤ a / b) ∧ (r ≤ n ↔ (a : ℚ) / b ≤ n) := by
  obtain ⟨r', hr', herror⟩ := exists_nearest_div ha haLt hb hbLt
  rw [h, Option.some.injEq] at hr'
  subst hr'
  by_cases hn : (n : ℚ) = a / b
  · -- an integer quotient is exact
    have hbPos : (0 : ℚ) < b := by exact_mod_cast hb
    have hnPos : 0 < n := by
      have : (0 : ℚ) < n := by
        rw [hn]
        have : (0 : ℚ) < a := by exact_mod_cast ha
        positivity
      exact_mod_cast this
    have hnLe : n ≤ a := by
      have : (n : ℚ) ≤ a := by
        rw [hn]
        exact div_le_self (by positivity) (by exact_mod_cast hb)
      exact_mod_cast this
    have hexact : nearest (n.toNat : ℚ) = some (n.toNat : ℚ) :=
      nearest_natCast (by omega) (by omega)
    have hcast : (n.toNat : ℚ) = n := by
      have : (n.toNat : Int) = n := Int.toNat_of_nonneg hnPos.le
      exact_mod_cast this
    rw [hcast, hn, h, Option.some.injEq] at hexact
    rw [hexact, hn]
    exact ⟨Iff.rfl, Iff.rfl⟩
  · have hfar := one_div_le_abs_sub hb hn
    rcases lt_or_gt_of_ne hn with hlt | hgt
    · rw [abs_of_neg (by linarith)] at hfar
      have := (abs_lt.mp herror).1
      exact ⟨iff_of_true (by linarith) hlt.le, iff_of_false (by linarith) (by linarith)⟩
    · rw [abs_of_pos (by linarith)] at hfar
      have := (abs_lt.mp herror).2
      exact ⟨iff_of_false (by linarith) (by linarith), iff_of_true (by linarith) hgt.le⟩

lemma floor_nearest_div (ha : 0 < a) (haLt : a < 2 ^ 53) (hb : 0 < b) (hbLt : b < 2 ^ 53)
    (h : nearest ((a : ℚ) / b) = some r) : r.floor = ((a / b : ℕ) : Int) := by
  rw [Int.natCast_ediv, ← Rat.floor_natCast_div_natCast]
  refine eq_of_forall_le_iff fun n => ?_
  rw [Rat.le_floor_iff, Int.le_floor]
  exact (compare_nearest_div ha haLt hb hbLt h n).1

lemma ceil_nearest_div (ha : 0 < a) (haLt : a < 2 ^ 53) (hb : 0 < b) (hbLt : b < 2 ^ 53)
    (h : nearest ((a : ℚ) / b) = some r) : r.ceil = (⌈(a : ℚ) / b⌉₊ : Int) := by
  rw [Int.natCast_ceil_eq_ceil (by positivity)]
  refine eq_of_forall_ge_iff fun n => ?_
  rw [Rat.ceil_le_iff, Int.ceil_le]
  exact (compare_nearest_div ha haLt hb hbLt h n).2

end Binary64

namespace Number

variable {a b : Number} {m n : ℕ}

/-! ### Natural numbers -/

/-- The number is numerically equal to `n`: both zeros are `0`. -/
def IsNat (a : Number) (n : ℕ) : Prop := a.eqv (ofInt n) = true

lemma isNat_iff : a.IsNat n ↔ a = ofInt n ∨ n = 0 ∧ a = negZero := by
  rw [IsNat]
  cases a with
  | nan => simp [eqv, compare?, ofInt]
  | infinity negative => cases negative <;> simp [eqv, compare?, ofInt]
  | negZero =>
    have hzero : eqv .negZero (ofInt n) = eqv (.finite 0) (.finite (n : ℚ)) := rfl
    rw [hzero, eqv_finite]
    simp [ofInt, eq_comm]
  | finite q =>
    have hcast : ofInt n = .finite (n : ℚ) := rfl
    rw [hcast, eqv_finite]
    simp

lemma isNat_ofInt (n : ℕ) : IsNat (ofInt n) n := isNat_iff.mpr (Or.inl rfl)

lemma isNat_negZero : IsNat negZero 0 := isNat_iff.mpr (Or.inr ⟨rfl, rfl⟩)

lemma IsNat.eq_ofInt (h : a.IsNat n) (hne : a ≠ negZero) : a = ofInt n :=
  (isNat_iff.mp h).resolve_right fun hzero => hne hzero.2

/-! ### Operations on natural numbers -/

/-- Natural numbers have no sign, and so their product and quotient have none. -/
lemma ofInt_mul_ofInt_eq_round (m n : ℕ) : ofInt m * ofInt n = round false (m * n : ℚ) := by
  have hmul : ofInt m * ofInt n =
      round (decide ((m : ℚ) < 0) != decide ((n : ℚ) < 0)) ((m : ℚ).abs * (n : ℚ).abs) := rfl
  rw [hmul, Rat.abs_of_nonneg m.cast_nonneg, Rat.abs_of_nonneg n.cast_nonneg,
    decide_eq_false (not_lt.mpr m.cast_nonneg), decide_eq_false (not_lt.mpr n.cast_nonneg)]
  rfl

lemma ofInt_div_ofInt_eq_round (m : ℕ) (hn : 0 < n) :
    ofInt m / ofInt n = round false (m / n : ℚ) := by
  have hdiv : ofInt m / ofInt n =
      if decide ((n : ℚ) = 0) = true then _ else
        round (decide ((m : ℚ) < 0) != decide ((n : ℚ) < 0)) ((m : ℚ).abs / (n : ℚ).abs) := rfl
  have hne : (n : ℚ) ≠ 0 := by exact_mod_cast hn.ne'
  rw [hdiv, if_neg (by simpa using hne), Rat.abs_of_nonneg m.cast_nonneg,
    Rat.abs_of_nonneg n.cast_nonneg, decide_eq_false (not_lt.mpr m.cast_nonneg),
    decide_eq_false (not_lt.mpr n.cast_nonneg)]
  rfl

/-- A product below `2 ^ 53` is exact. -/
lemma ofInt_mul_ofInt (h : m * n < 2 ^ 53) : ofInt m * ofInt n = ofInt ((m * n : ℕ) : Int) := by
  rw [ofInt_mul_ofInt_eq_round, ← Nat.cast_mul]
  rcases Nat.eq_zero_or_pos (m * n) with hzero | hpos
  · rw [hzero]
    rfl
  · exact round_natCast false hpos h

/-- The quotient of numbers below `2 ^ 53` is on the same side of every integer as the exact one. -/
lemma exists_ofInt_div_ofInt (hm : m < 2 ^ 53) (hn : 0 < n) (hnLt : n < 2 ^ 53) :
    ∃ r : ℚ, ofInt m / ofInt n = .finite r ∧ 0 ≤ r ∧ r.floor = ((m / n : ℕ) : Int) ∧
      r.ceil = (⌈(m : ℚ) / n⌉₊ : Int) := by
  rw [ofInt_div_ofInt_eq_round m hn]
  rcases Nat.eq_zero_or_pos m with rfl | hpos
  · refine ⟨0, by simp [round, zero], le_rfl, ?_, ?_⟩
    · rw [Nat.zero_div]
      exact Rat.floor_intCast 0
    · rw [Nat.cast_zero, zero_div, Nat.ceil_zero]
      exact Rat.ceil_intCast 0
  · obtain ⟨r, hr, -⟩ := Binary64.exists_nearest_div hpos hm hn hnLt
    have hne : (m : ℚ) / n ≠ 0 := by positivity
    have hzero := (Binary64.compare_nearest_div hpos hm hn hnLt hr 0).1
    exact ⟨r, round_of_nearest hne hr, by simpa using hzero.mpr (by positivity),
      Binary64.floor_nearest_div hpos hm hn hnLt hr, Binary64.ceil_nearest_div hpos hm hn hnLt hr⟩

lemma floor_ofInt_div (hm : m < 2 ^ 53) (hn : 0 < n) (hnLt : n < 2 ^ 53) :
    (ofInt m / ofInt n).floor = ofInt ((m / n : ℕ) : Int) := by
  obtain ⟨r, hr, -, hfloor, -⟩ := exists_ofInt_div_ofInt hm hn hnLt
  rw [hr, floor, hfloor]

lemma ceil_ofInt_div (hm : m < 2 ^ 53) (hn : 0 < n) (hnLt : n < 2 ^ 53) :
    (ofInt m / ofInt n).ceil = ofInt (⌈(m : ℚ) / n⌉₊ : Int) := by
  obtain ⟨r, hr, hnonneg, -, hceil⟩ := exists_ofInt_div_ofInt hm hn hnLt
  rw [hr, ceil, if_neg fun h => absurd h.1 hnonneg.not_gt, hceil]

/-! ### The negative zero -/

lemma negZero_mul_ofInt (n : ℕ) : negZero * ofInt n = negZero := by
  have hmul : negZero * ofInt n =
      round (true != decide ((n : ℚ) < 0)) (0 * (n : ℚ).abs) := rfl
  rw [hmul, zero_mul, decide_eq_false (not_lt.mpr n.cast_nonneg)]
  rfl

lemma ofInt_mul_negZero (m : ℕ) : ofInt m * negZero = negZero := by
  have hmul : ofInt m * negZero =
      round (decide ((m : ℚ) < 0) != true) ((m : ℚ).abs * 0) := rfl
  rw [hmul, mul_zero, decide_eq_false (not_lt.mpr m.cast_nonneg)]
  rfl

lemma negZero_mul_negZero : negZero * negZero = ofInt 0 := by
  have hmul : negZero * negZero = round false (0 * 0) := rfl
  rw [hmul, mul_zero]
  rfl

lemma negZero_div_ofInt (hn : 0 < n) : negZero / ofInt n = negZero := by
  have hdiv : negZero / ofInt n =
      if decide ((n : ℚ) = 0) = true then _ else
        round (true != decide ((n : ℚ) < 0)) (0 / (n : ℚ).abs) := rfl
  have hne : (n : ℚ) ≠ 0 := by exact_mod_cast hn.ne'
  rw [hdiv, if_neg (by simpa using hne), zero_div, decide_eq_false (not_lt.mpr n.cast_nonneg)]
  rfl

lemma IsNat.mul (ha : a.IsNat m) (hb : b.IsNat n) (h : m * n < 2 ^ 53) : (a * b).IsNat (m * n) := by
  rcases isNat_iff.mp ha with rfl | ⟨rfl, rfl⟩
  · rcases isNat_iff.mp hb with rfl | ⟨rfl, rfl⟩
    · rw [ofInt_mul_ofInt h]
      exact isNat_ofInt _
    · rw [ofInt_mul_negZero]
      exact isNat_negZero
  · rw [Nat.zero_mul]
    rcases isNat_iff.mp hb with rfl | ⟨rfl, rfl⟩
    · rw [negZero_mul_ofInt]
      exact isNat_negZero
    · rw [negZero_mul_negZero]
      exact isNat_ofInt 0

lemma IsNat.floor_div (ha : a.IsNat m) (hm : m < 2 ^ 53) (hn : 0 < n) (hnLt : n < 2 ^ 53) :
    (a / ofInt n).floor.IsNat (m / n) := by
  rcases isNat_iff.mp ha with rfl | ⟨rfl, rfl⟩
  · rw [floor_ofInt_div hm hn hnLt]
    exact isNat_ofInt _
  · rw [negZero_div_ofInt hn, Nat.zero_div]
    exact isNat_negZero

lemma IsNat.ceil_div (ha : a.IsNat m) (hm : m < 2 ^ 53) (hn : 0 < n) (hnLt : n < 2 ^ 53) :
    (a / ofInt n).ceil.IsNat ⌈(m : ℚ) / n⌉₊ := by
  rcases isNat_iff.mp ha with rfl | ⟨rfl, rfl⟩
  · rw [ceil_ofInt_div hm hn hnLt]
    exact isNat_ofInt _
  · rw [negZero_div_ofInt hn, Nat.cast_zero, zero_div, Nat.ceil_zero]
    exact isNat_negZero

end Number

end Elementwise
