import Elementwise.Number.Basic
import Mathlib.Algebra.Order.Ring.Rat
import Mathlib.Tactic

/-!
# Comparing numbers

Finite numbers are compared as the rationals they stand for. An integer from 1 up is then the same
as an integer that is not below or equal to zero.
-/

namespace Elementwise.Number

lemma compare?_finite (p q : ℚ) :
    compare? (.finite p) (.finite q) =
      some (if p < q then .lt else if q < p then .gt else .eq) := rfl

lemma lt_finite (p q : ℚ) : lt (.finite p) (.finite q) = decide (p < q) := by
  rw [lt, compare?_finite]
  rcases lt_trichotomy p q with h | h | h
  · simp [h]
  · simp [h]
  · simp [h, h.not_gt]

lemma le_finite (p q : ℚ) : le (.finite p) (.finite q) = decide (p ≤ q) := by
  rw [le, lt_finite, compare?_finite]
  rcases lt_trichotomy p q with h | h | h
  · simp [h, h.le]
  · simp [h]
  · simp [h, h.not_gt, h.not_ge]

lemma eqv_finite (p q : ℚ) : eqv (.finite p) (.finite q) = decide (p = q) := by
  rw [eqv, compare?_finite]
  rcases lt_trichotomy p q with h | h | h
  · simp [h, h.ne]
  · simp [h]
  · simp [h, h.not_gt, h.ne']

lemma isInteger_iff {a : Number} :
    a.isInteger = true ↔ a = .negZero ∨ ∃ n : Int, a = ofInt n := by
  cases a with
  | nan => simp [isInteger, ofInt]
  | infinity negative => simp [isInteger, ofInt]
  | negZero => simp [isInteger]
  | finite q =>
    simp only [isInteger, decide_eq_true_eq, reduceCtorEq, false_or, ofInt, finite.injEq]
    constructor
    · exact fun hden => ⟨q.num, (Rat.coe_int_num_of_den_eq_one hden).symm⟩
    · rintro ⟨n, rfl⟩
      exact Rat.den_intCast n

lemma isPositiveInteger_iff {a : Number} :
    a.isPositiveInteger = true ↔ ∃ n : ℕ, 1 ≤ n ∧ a = ofInt n := by
  simp only [isPositiveInteger, Bool.and_eq_true, Bool.not_eq_true']
  constructor
  · rintro ⟨hinteger, hone⟩
    rcases isInteger_iff.mp hinteger with rfl | ⟨n, rfl⟩
    · cases hone
    · have hlt : (ofInt n).lt 1 = decide ((n : ℚ) < 1) := lt_finite _ _
      rw [hlt, decide_eq_false_iff_not, not_lt] at hone
      have hle : 1 ≤ n := by exact_mod_cast hone
      lift n to ℕ using by omega
      exact ⟨n, by omega, rfl⟩
  · rintro ⟨n, hn, rfl⟩
    have hlt : (ofInt n).lt 1 = decide ((n : ℚ) < 1) := lt_finite _ _
    have hle : ¬ (n : ℚ) < 1 := not_lt.mpr (by exact_mod_cast hn)
    exact ⟨isInteger_iff.mpr (Or.inr ⟨n, rfl⟩), by simp [hlt, hle]⟩

/-- There is no integer between zero and one. -/
lemma isPositiveInteger_eq (a : Number) : a.isPositiveInteger = (a.isInteger && !a.le 0) := by
  cases a with
  | nan => rfl
  | infinity negative => rfl
  | negZero => rfl
  | finite q =>
    have hone : lt (.finite q) 1 = decide (q < 1) := lt_finite q 1
    have hzero : le (.finite q) 0 = decide (q ≤ 0) := le_finite q 0
    rw [isPositiveInteger, hone, hzero]
    by_cases hden : q.den = 1
    · have hnum : q = (q.num : ℚ) := (Rat.coe_int_num_of_den_eq_one hden).symm
      have hiff : q < 1 ↔ q ≤ 0 := by
        rw [hnum]
        norm_cast
        omega
      simp [hiff]
    · simp [isInteger, hden]

end Elementwise.Number
