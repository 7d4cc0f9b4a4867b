import Elementwise.Number.Printer
import Elementwise.Proofs.Number.Nearest

/-!
# Shortest decimals

The shortest decimal of a value is a neighbour of it on some decimal grid. Seventeen digits identify
a binary64 value from 1 up, so its shortest decimal is rounded to it, and an integer is found on a
grid of integers.
-/

namespace Elementwise.Decimal

open Binary64

/-! ### Powers of ten -/

lemma tenPow_eq_zpow (e : Int) : tenPow e = (10 : ℚ) ^ e := by
  cases e with
  | ofNat n => exact mkRat_pow_one 10 n
  | negSucc n => exact mkRat_one_pow 10 n

lemma toRat_eq (d : Decimal) : d.toRat = d.digits * (10 : ℚ) ^ d.exponent := by
  rw [toRat, tenPow_eq_zpow]

lemma ten_zpow_pos (e : Int) : (0 : ℚ) < 10 ^ e := zpow_pos (by norm_num) e

lemma zpow_le_zpow_ten_iff {m n : Int} : (10 : ℚ) ^ m ≤ 10 ^ n ↔ m ≤ n :=
  zpow_le_zpow_iff_right₀ (by norm_num)

lemma zpow_lt_zpow_ten_iff {m n : Int} : (10 : ℚ) ^ m < 10 ^ n ↔ m < n :=
  zpow_lt_zpow_iff_right₀ (by norm_num)

/-- A number of `k` digits lies below the `k`-th power of ten and not below the one before. -/
lemma zpow_length_toDigits_bounds {n : Nat} (hn : n ≠ 0) :
    (10 : ℚ) ^ ((Nat.toDigits 10 n).length - 1 : Int) ≤ n ∧
      (n : ℚ) < 10 ^ (((Nat.toDigits 10 n).length - 1 : Int) + 1) := by
  have hlength : 0 < (Nat.toDigits 10 n).length := List.length_pos_iff.mpr Nat.toDigits_ne_nil
  obtain ⟨k, hk⟩ : ∃ k, (Nat.toDigits 10 n).length = k + 1 := ⟨_, (Nat.sub_add_cancel hlength).symm⟩
  have hhigh : n < 10 ^ (k + 1) :=
    (Nat.length_toDigits_le_iff (by norm_num) (by omega)).mp hk.le
  have hlow : 10 ^ k ≤ n := by
    rcases Nat.eq_zero_or_pos k with rfl | hpos
    · exact Nat.pos_of_ne_zero hn
    · by_contra hlt
      have := (Nat.length_toDigits_le_iff (by norm_num) hpos).mpr (not_le.mp hlt)
      omega
  rw [hk]
  push_cast
  rw [add_sub_cancel_right]
  exact ⟨by exact_mod_cast hlow, by exact_mod_cast hhigh⟩

/-- The decimal exponent of a positive rational. -/
lemma leadingExponent_spec {q : ℚ} (hq : 0 < q) :
    (10 : ℚ) ^ leadingExponent q ≤ q ∧ q < (10 : ℚ) ^ (leadingExponent q + 1) := by
  have hne : q.num.natAbs ≠ 0 := Int.natAbs_ne_zero.mpr (Rat.num_pos.mpr hq).ne'
  have hspec := leading_zpow_spec (by norm_num) hq (zpow_length_toDigits_bounds hne)
    (zpow_length_toDigits_bounds q.den_nz)
  simpa only [leadingExponent, tenPow_eq_zpow, sub_sub_sub_cancel_right] using hspec

lemma le_leadingExponent_iff {q : ℚ} (hq : 0 < q) {e : Int} :
    e ≤ leadingExponent q ↔ (10 : ℚ) ^ e ≤ q := by
  obtain ⟨hlow, hhigh⟩ := leadingExponent_spec hq
  constructor
  · exact fun h => (zpow_le_zpow_ten_iff.mpr h).trans hlow
  · intro h
    have := zpow_lt_zpow_ten_iff.mp (h.trans_lt hhigh)
    omega

/-! ### Grids -/

/-- The last decimal with the given exponent that is not above `q`. -/
def below (q : ℚ) (e : Int) : Decimal := ⟨(q / tenPow e).floor.toNat, e⟩

/-- The decimal after it. -/
def above (q : ℚ) (e : Int) : Decimal := ⟨(below q e).digits + 1, e⟩

/-- The two decimals with the given exponent that enclose `q`. -/
def IsNeighbour (q : ℚ) (e : Int) (d : Decimal) : Prop := d = below q e ∨ d = above q e

lemma IsNeighbour.exponent_eq {q : ℚ} {e : Int} {d : Decimal} (h : IsNeighbour q e d) :
    d.exponent = e := by
  rcases h with rfl | rfl
  · rfl
  · rfl

lemma cast_below_digits {q : ℚ} (hq : 0 ≤ q) (e : Int) :
    ((below q e).digits : ℚ) = ((q / 10 ^ e).floor : Int) := by
  have hfloor : 0 ≤ (q / 10 ^ e).floor :=
    Rat.le_floor_iff.mpr (by exact_mod_cast div_nonneg hq (ten_zpow_pos e).le)
  rw [below, tenPow_eq_zpow]
  exact_mod_cast Int.toNat_of_nonneg hfloor

lemma toRat_below_le {q : ℚ} (hq : 0 ≤ q) (e : Int) : (below q e).toRat ≤ q := by
  rw [toRat_eq, cast_below_digits hq, ← le_div_iff₀ (ten_zpow_pos _)]
  exact Rat.floor_le _

lemma toRat_above (q : ℚ) (e : Int) : (above q e).toRat = (below q e).toRat + 10 ^ e := by
  rw [toRat_eq, toRat_eq]
  simp only [above, below]
  push_cast
  ring

lemma lt_toRat_above {q : ℚ} (hq : 0 ≤ q) (e : Int) : q < (above q e).toRat := by
  rw [toRat_above, toRat_eq, cast_below_digits hq]
  have hfloor := Rat.lt_floor_add_one (q / 10 ^ e)
  rw [div_lt_iff₀ (ten_zpow_pos e)] at hfloor
  push_cast at hfloor
  calc q < ((q / 10 ^ e).floor + 1 : ℚ) * 10 ^ e := hfloor
    _ = (q / 10 ^ e).floor * 10 ^ e + 10 ^ e := by ring

/-- A power of ten is a multiple of every smaller one. -/
lemma zpow_ten_eq_mul {e m : Int} (he : e ≤ m) :
    (10 : ℚ) ^ m = ((10 ^ (m - e).toNat : Int) : ℚ) * 10 ^ e := by
  push_cast
  rw [← zpow_natCast, ← zpow_add₀ (by norm_num)]
  congr 1
  omega

/-- A power of ten on the grid that is not above `q` is not above the neighbours of `q`. -/
lemma zpow_le_toRat_below {q : ℚ} (hq : 0 ≤ q) {e m : Int} (he : e ≤ m) (h : (10 : ℚ) ^ m ≤ q) :
    (10 : ℚ) ^ m ≤ (below q e).toRat := by
  have hdigits : (10 ^ (m - e).toNat : Int) ≤ (q / 10 ^ e).floor := by
    rw [Rat.le_floor_iff, le_div_iff₀ (ten_zpow_pos e), ← zpow_ten_eq_mul he]
    exact h
  rw [toRat_eq, cast_below_digits hq, zpow_ten_eq_mul he]
  exact mul_le_mul_of_nonneg_right (by exact_mod_cast hdigits) (ten_zpow_pos e).le

/-- A power of ten on the grid that is above `q` is not below the neighbours of `q`. -/
lemma toRat_above_le_zpow {q : ℚ} (hq : 0 ≤ q) {e m : Int} (he : e ≤ m) (h : q < (10 : ℚ) ^ m) :
    (above q e).toRat ≤ 10 ^ m := by
  have hdigits : (q / 10 ^ e).floor + 1 ≤ (10 ^ (m - e).toNat : Int) := by
    rw [Int.add_one_le_iff, Rat.floor_lt_iff, div_lt_iff₀ (ten_zpow_pos e), ← zpow_ten_eq_mul he]
    exact h
  rw [toRat_above, toRat_eq, cast_below_digits hq, zpow_ten_eq_mul he]
  calc ((q / 10 ^ e).floor : ℚ) * 10 ^ e + 10 ^ e
      = (((q / 10 ^ e).floor + 1 : Int) : ℚ) * 10 ^ e := by
        push_cast
        ring
    _ ≤ ((10 ^ (m - e).toNat : Int) : ℚ) * 10 ^ e :=
        mul_le_mul_of_nonneg_right (by exact_mod_cast hdigits) (ten_zpow_pos e).le

/-- One of the two neighbours is at most half a step away. -/
lemma exists_isNeighbour_abs_sub_le {q : ℚ} (hq : 0 ≤ q) (e : Int) :
    ∃ d, IsNeighbour q e d ∧ |d.toRat - q| ≤ 10 ^ e / 2 := by
  have hbelow := toRat_below_le hq e
  have habove := lt_toRat_above hq e
  have hstep := toRat_above q e
  rcases le_total (q - (below q e).toRat) (10 ^ e / 2) with h | h
  · refine ⟨below q e, Or.inl rfl, ?_⟩
    rw [abs_le]
    constructor <;> linarith
  · refine ⟨above q e, Or.inr rfl, ?_⟩
    rw [abs_le]
    constructor <;> linarith

lemma nearer_eq_or_eq (q : ℚ) (low high : Decimal) :
    nearer q low high = low ∨ nearer q low high = high := by
  simp only [nearer]
  split_ifs
  · exact Or.inl rfl
  · exact Or.inr rfl
  · exact Or.inl rfl
  · exact Or.inr rfl

lemma roundsTo_iff {d : Decimal} {q : ℚ} : d.roundsTo q = true ↔ nearest d.toRat = some q := by
  rw [roundsTo, decide_eq_true_eq]

lemma onGrid_eq (q : ℚ) (e : Int) :
    onGrid? q e =
      match (below q e).roundsTo q, (above q e).roundsTo q with
      | true, true => some (nearer q (below q e) (above q e))
      | true, false => some (below q e)
      | false, true => some (above q e)
      | false, false => none := rfl

/-- A hit on a grid is a neighbour that is rounded to the value. -/
lemma isNeighbour_of_onGrid {q : ℚ} {e : Int} {d : Decimal} (h : onGrid? q e = some d) :
    IsNeighbour q e d ∧ nearest d.toRat = some q := by
  rw [← roundsTo_iff]
  rw [onGrid_eq] at h
  cases hbelow : (below q e).roundsTo q <;> cases habove : (above q e).roundsTo q <;>
    simp only [hbelow, habove, Option.some.injEq, reduceCtorEq] at h
  · subst h
    exact ⟨Or.inr rfl, habove⟩
  · subst h
    exact ⟨Or.inl rfl, hbelow⟩
  · rcases nearer_eq_or_eq q (below q e) (above q e) with heq | heq
    · rw [← h, heq]
      exact ⟨Or.inl rfl, hbelow⟩
    · rw [← h, heq]
      exact ⟨Or.inr rfl, habove⟩

/-- A grid with a neighbour that is rounded to the value has a hit. -/
lemma onGrid_ne_none {q : ℚ} {e : Int} {d : Decimal} (hd : IsNeighbour q e d)
    (h : nearest d.toRat = some q) : onGrid? q e ≠ none := by
  rw [← roundsTo_iff] at h
  intro hnone
  rw [onGrid_eq] at hnone
  rcases hd with rfl | rfl
  · cases habove : (above q e).roundsTo q <;> simp [h, habove] at hnone
  · cases hbelow : (below q e).roundsTo q <;> simp [h, hbelow] at hnone

/-! ### The search -/

/-- A search over an initial segment finds the first hit. -/
lemma findSome_range_cases {α : Type} (f : Nat → Option α) (n : Nat) :
    (∃ k < n, ∃ a, f k = some a ∧ (List.range n).findSome? f = some a ∧ ∀ j < k, f j = none) ∨
      ((∀ k < n, f k = none) ∧ (List.range n).findSome? f = none) := by
  induction n with
  | zero => exact Or.inr ⟨by simp, rfl⟩
  | succ n ih =>
    rw [List.range_succ, List.findSome?_append]
    rcases ih with ⟨k, hk, a, ha, hfound, hnone⟩ | ⟨hnone, hfound⟩
    · exact Or.inl ⟨k, by omega, a, ha, by rw [hfound]; rfl, hnone⟩
    · rw [hfound, Option.none_or]
      cases hlast : f n with
      | none =>
        refine Or.inr ⟨fun k hk => ?_, by simp [hlast]⟩
        rcases Nat.lt_succ_iff_lt_or_eq.mp hk with hk | rfl
        · exact hnone k hk
        · exact hlast
      | some a => exact Or.inl ⟨n, by omega, a, hlast, by simp [hlast], hnone⟩

/-- The shortest decimal is the hit on the coarsest grid that has one, or else the decimal below the
value on the finest grid. -/
lemma shortest_cases (q : ℚ) :
    (∃ k ≤ 16, onGrid? q (leadingExponent q - (k : Nat)) = some (shortest q) ∧
      ∀ j < k, onGrid? q (leadingExponent q - (j : Nat)) = none) ∨
    ((∀ k ≤ 16, onGrid? q (leadingExponent q - (k : Nat)) = none) ∧
      shortest q = below q (leadingExponent q - 16)) := by
  rcases findSome_range_cases (fun k : Nat => onGrid? q (leadingExponent q - (k : Int))) 17 with
    ⟨k, hk, d, hd, hfound, hnone⟩ | ⟨hnone, hfound⟩
  · refine Or.inl ⟨k, by omega, ?_, hnone⟩
    rw [shortest, hfound, hd]
    rfl
  · refine Or.inr ⟨fun k hk => hnone k (by omega), ?_⟩
    rw [shortest, hfound]
    rfl

/-- The shortest decimal is one of the neighbours on a grid of at most seventeen digits. -/
lemma exists_isNeighbour_shortest (q : ℚ) :
    ∃ k ≤ 16, IsNeighbour q (leadingExponent q - (k : Nat)) (shortest q) := by
  rcases shortest_cases q with ⟨k, hk, hhit, _⟩ | ⟨_, hlast⟩
  · exact ⟨k, hk, (isNeighbour_of_onGrid hhit).1⟩
  · exact ⟨16, le_rfl, Or.inl hlast⟩

/-- The shortest decimal has the magnitude of the value. -/
lemma toRat_shortest_bounds {q : ℚ} (hq : 0 < q) :
    (10 : ℚ) ^ leadingExponent q ≤ (shortest q).toRat ∧
      (shortest q).toRat ≤ 10 ^ (leadingExponent q + 1) := by
  obtain ⟨k, hk, hneighbour⟩ := exists_isNeighbour_shortest q
  obtain ⟨hlow, hhigh⟩ := leadingExponent_spec hq
  have hbelow := zpow_le_toRat_below hq.le
    (show leadingExponent q - (k : Int) ≤ leadingExponent q by omega) hlow
  have habove := toRat_above_le_zpow hq.le
    (show leadingExponent q - (k : Int) ≤ leadingExponent q + 1 by omega) hhigh
  have hstep := toRat_above q (leadingExponent q - (k : Int))
  have hpos := ten_zpow_pos (leadingExponent q - (k : Int))
  rcases hneighbour with h | h
  · rw [h]
    constructor <;> linarith
  · rw [h]
    constructor <;> linarith

lemma digits_shortest_pos {q : ℚ} (hq : 0 < q) : 0 < (shortest q).digits := by
  have hpos := (ten_zpow_pos _).trans_le (toRat_shortest_bounds hq).1
  rw [toRat_eq] at hpos
  exact_mod_cast pos_of_mul_pos_left hpos (ten_zpow_pos _).le

/-- Seventeen digits identify a binary64 value from 1 up. -/
lemma nearest_toRat_shortest {q : ℚ} (hq : nearest q = some q) (hone : 1 ≤ q) :
    nearest (shortest q).toRat = some q := by
  rcases shortest_cases q with ⟨_, _, hhit, _⟩ | ⟨hnone, _⟩
  · exact (isNeighbour_of_onGrid hhit).2
  · -- the nearer neighbour on the finest grid would have been a hit
    have hpos : 0 < q := by linarith
    obtain ⟨d, hd, hdist⟩ := exists_isNeighbour_abs_sub_le hpos.le (leadingExponent q - 16)
    refine absurd (hnone 16 le_rfl) (onGrid_ne_none hd ?_)
    apply nearest_eq_of_abs_sub_le hq hone
    calc |d.toRat - q| ≤ 10 ^ (leadingExponent q - 16) / 2 := hdist
      _ = 10 ^ leadingExponent q / (2 * 10 ^ 16) := by
          rw [zpow_sub₀ (by norm_num)]
          norm_cast
          ring
      _ ≤ q / (2 * 10 ^ 16) :=
          div_le_div_of_nonneg_right (leadingExponent_spec hpos).1 (by norm_num)

/-- The shortest decimal of an integer has no digits after the point. -/
lemma exponent_shortest_nonneg {n : Nat} (hpos : 0 < n) (hn : nearest (n : ℚ) = some (n : ℚ)) :
    0 ≤ (shortest (n : ℚ)).exponent := by
  have hq : (0 : ℚ) < n := by exact_mod_cast hpos
  have hlead : 0 ≤ leadingExponent (n : ℚ) := by
    rw [le_leadingExponent_iff hq, zpow_zero]
    exact_mod_cast hpos
  -- the integer itself is a hit on the grid of the integers
  have hself : below (n : ℚ) 0 = ⟨n, 0⟩ := by
    have hone : tenPow 0 = 1 := by rw [tenPow_eq_zpow, zpow_zero]
    have hfloor : (n : ℚ).floor = n := by exact_mod_cast Rat.floor_intCast (n : Int)
    rw [below, hone, div_one, hfloor, Int.toNat_natCast]
  have hhit : onGrid? (n : ℚ) 0 ≠ none := by
    apply onGrid_ne_none (Or.inl hself.symm)
    rw [toRat_eq, zpow_zero, mul_one]
    exact hn
  have hlast : ∀ k : Nat, (∀ j < k, onGrid? (n : ℚ) (leadingExponent n - (j : Nat)) = none) →
      (k : Int) ≤ leadingExponent (n : ℚ) := by
    intro k hnone
    by_contra hlt
    apply hhit
    have := hnone (leadingExponent (n : ℚ)).toNat (by omega)
    rwa [Int.toNat_of_nonneg hlead, sub_self] at this
  rcases shortest_cases (n : ℚ) with ⟨k, _, hfound, hnone⟩ | ⟨hnone, hbelow⟩
  · rw [(isNeighbour_of_onGrid hfound).1.exponent_eq]
    have := hlast k hnone
    omega
  · rw [hbelow]
    have := hlast 16 fun j hj => hnone j (by omega)
    exact Int.sub_nonneg_of_le this

/-- No power of ten that is a binary64 value lies between a smaller one and its shortest decimal. -/
lemma toRat_shortest_lt {q : ℚ} (hq : nearest q = some q) (hone : 1 ≤ q) {m : Int}
    (hm : nearest (10 ^ m) = some (10 ^ m)) (hlt : q < 10 ^ m) : (shortest q).toRat < 10 ^ m := by
  have hpos : 0 < q := by linarith
  have hlead : leadingExponent q < m := by
    rw [← not_le, le_leadingExponent_iff hpos, not_le]
    exact hlt
  apply lt_of_le_of_ne
  · exact (toRat_shortest_bounds hpos).2.trans (zpow_le_zpow_ten_iff.mpr (by omega))
  · -- the power itself is not rounded down to the smaller value
    intro heq
    have hround := nearest_toRat_shortest hq hone
    rw [heq, hm, Option.some.injEq] at hround
    exact hlt.ne hround.symm

/-- The shortest decimal of a large integer is not one of the integers below `2 ^ 53`, even where
the large integer is no binary64 value. -/
lemma toRat_shortest_ne {m n : Nat} (hm : 2 ^ 53 < m) (hn : n < 2 ^ 53) :
    (shortest (m : ℚ)).toRat ≠ n := by
  intro hvalue
  have hpos : (0 : ℚ) < m := by exact_mod_cast (by omega : 0 < m)
  have hbound := (toRat_shortest_bounds hpos).1
  rw [hvalue] at hbound
  rcases shortest_cases (m : ℚ) with ⟨k, _, hhit, _⟩ | ⟨_, hbelow⟩
  · -- a hit is rounded to the large integer, and the small one to itself
    have hround := (isNeighbour_of_onGrid hhit).2
    have hnPos : 0 < n := by exact_mod_cast (ten_zpow_pos _).trans_le hbound
    rw [hvalue, nearest_natCast hnPos hn, Option.some.injEq, Nat.cast_inj] at hround
    omega
  rcases le_or_gt 16 (leadingExponent (m : ℚ)) with hlead | hlead
  · -- the last resort has the magnitude of the value
    have hten : (10 : ℚ) ^ (16 : Int) ≤ n := (zpow_le_zpow_ten_iff.mpr hlead).trans hbound
    have hten : 10 ^ 16 ≤ n := by exact_mod_cast hten
    omega
  · -- and it is off by less than one
    have habove := lt_toRat_above hpos.le (leadingExponent (m : ℚ) - 16)
    rw [toRat_above, ← hbelow, hvalue] at habove
    have hstep : (10 : ℚ) ^ (leadingExponent (m : ℚ) - 16) ≤ 10 ^ (0 : Int) :=
      zpow_le_zpow_ten_iff.mpr (by omega)
    rw [zpow_zero] at hstep
    have hless : (m : ℚ) < n + 1 := by linarith
    have hless : m < n + 1 := by exact_mod_cast hless
    omega

end Elementwise.Decimal
