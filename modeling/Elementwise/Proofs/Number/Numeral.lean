import Elementwise.Number.Numeral
import Elementwise.Proofs.Number.Nearest
import Elementwise.Proofs.Number.Order

/-!
# The numbers that can be read

Whatever a text denotes is a binary64 number: reading rounds once, and rounding a second time would
change nothing. The positive integers among these numbers are the dimensions a workgroup may have.
-/

namespace Elementwise

open Binary64

namespace Number

/-! ### Rounded numbers -/

/-- Whether a finite number is a binary64 value, that is, rounded to itself. -/
def IsBinary64 : Number → Prop
  | .finite q => q = 0 ∨ nearest |q| = some |q|
  | _ => True

lemma isBinary64_zero (negative : Bool) : (zero negative).IsBinary64 := by
  cases negative
  · exact Or.inl rfl
  · trivial

lemma isBinary64_round (negative : Bool) {q : ℚ} (hq : 0 ≤ q) : (round negative q).IsBinary64 := by
  rw [round]
  split
  · exact isBinary64_zero negative
  rename_i hne
  split
  · trivial
  rename_i r hr
  split
  · exact isBinary64_zero negative
  rename_i hrNe
  have hrNonneg : 0 ≤ r := by
    have hquot : ((0 : Int) : ℚ) ≤ q / unit q := by
      exact_mod_cast div_nonneg hq (unit_pos q).le
    rw [(eq_of_nearest hr).1]
    exact mul_nonneg (by exact_mod_cast le_nearestInt hquot) (unit_pos q).le
  -- the sign is put back behind the rounding, and plays no part in it
  have hself : nearest r = some r :=
    nearest_of_nearest (lt_of_le_of_ne hq (Ne.symm hne)) hr (lt_of_le_of_ne hrNonneg (Ne.symm hrNe))
  refine Or.inr ?_
  split
  · rwa [abs_neg, abs_of_nonneg hrNonneg]
  · rwa [abs_of_nonneg hrNonneg]

/-! ### Read numbers -/

lemma isBinary64_ofDecimal (negative : Bool) (digits : Nat) (exponent : Int) :
    (ofDecimal negative digits exponent).IsBinary64 := by
  have hnonneg : ∀ m n : Nat, (0 : ℚ) ≤ mkRat m n := by
    intro m n
    rw [Rat.mkRat_eq_div]
    positivity
  rw [ofDecimal]
  split_ifs
  · exact isBinary64_zero negative
  · trivial
  · exact isBinary64_zero negative
  · exact isBinary64_round negative (hnonneg _ _)
  · exact isBinary64_round negative (hnonneg _ _)

lemma isBinary64_ofUnsigned (negative : Bool) (text : List Char) :
    (ofUnsigned negative text).IsBinary64 := by
  rw [ofUnsigned]
  split_ifs
  · trivial
  · -- where the digits and the exponent come from plays no part
    generalize exponentValue? _ = exponent
    cases exponent with
    | none => trivial
    | some e => exact isBinary64_ofDecimal _ _ _

lemma isBinary64_ofMagnitude (negative : Bool) (text : List Char) :
    (ofMagnitude negative text).IsBinary64 := by
  rw [ofMagnitude]
  split
  · trivial
  · exact isBinary64_ofUnsigned negative text

lemma isBinary64_ofBase (base : Nat) (digits : List Char) : (ofBase base digits).IsBinary64 := by
  rw [ofBase]
  split
  · apply isBinary64_round
    rw [Rat.mkRat_eq_div]
    positivity
  · trivial

/-- Every text denotes a binary64 number. -/
lemma isBinary64_ofNumeral (text : List Char) : (ofNumeral text).IsBinary64 := by
  rw [ofNumeral]
  split
  · exact Or.inl rfl
  · exact isBinary64_ofBase 16 _
  · exact isBinary64_ofBase 16 _
  · exact isBinary64_ofBase 8 _
  · exact isBinary64_ofBase 8 _
  · exact isBinary64_ofBase 2 _
  · exact isBinary64_ofBase 2 _
  · exact isBinary64_ofMagnitude true _
  · exact isBinary64_ofMagnitude false _
  · exact isBinary64_ofMagnitude false _

/-! ### Dimensions -/

/-- Whether the number is a positive integer that binary64 represents. -/
def IsDimension (a : Number) : Prop :=
  ∃ n : Nat, 0 < n ∧ nearest (n : ℚ) = some (n : ℚ) ∧ a = ofInt n

lemma isDimension_one : IsDimension 1 := ⟨1, one_pos, nearest_natCast one_pos (by norm_num), rfl⟩

lemma isDimension_of_isPositiveInteger {a : Number} (h : a.IsBinary64)
    (hpositive : a.isPositiveInteger = true) : a.IsDimension := by
  obtain ⟨n, hn, rfl⟩ := isPositiveInteger_iff.mp hpositive
  refine ⟨n, hn, ?_, rfl⟩
  have hzero : (n : ℚ) ≠ 0 := by exact_mod_cast (show n ≠ 0 by omega)
  have hself : ((n : Int) : ℚ) = 0 ∨ nearest |((n : Int) : ℚ)| = some |((n : Int) : ℚ)| := h
  rw [Int.cast_natCast, abs_of_nonneg n.cast_nonneg] at hself
  exact hself.resolve_left hzero

end Number

end Elementwise
