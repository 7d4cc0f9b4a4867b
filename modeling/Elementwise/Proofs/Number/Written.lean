import Elementwise.Proofs.Number.Numeral
import Elementwise.Proofs.Number.Printer
import Elementwise.Proofs.Number.Shortest
import Mathlib.Data.List.DropRight

/-!
# Written integers

A decimal written with digits only is read back exactly. The texts of positive binary64 integers
below `10 ^ 21` are of this kind, whatever their size; from there on only the first digit stands
before the exponent or the point. No other integer has the text of a safe one.
-/

namespace Elementwise

open Binary64

namespace Decimal

/-! ### Digits and their end -/

/-- Only zeros are dropped from the end of the digits. -/
lemma exists_toDigits_eq_append (d : Decimal) :
    ∃ z : Nat, Nat.toDigits 10 d.digits = d.significantDigits ++ List.replicate z '0' := by
  set digits := Nat.toDigits 10 d.digits with hdigits
  refine ⟨(digits.rtakeWhile (· == '0')).length, ?_⟩
  have hzeros : digits.rtakeWhile (· == '0') =
      List.replicate (digits.rtakeWhile (· == '0')).length '0' := by
    rw [List.eq_replicate_length]
    intro c hc
    have := List.mem_rtakeWhile_imp hc
    exact beq_iff_eq.mp this
  rw [← hzeros]
  exact List.rdropWhile_append_rtakeWhile.symm

lemma isDigit_of_mem_significantDigits {d : Decimal} {c : Char} (h : c ∈ d.significantDigits) :
    c.isDigit = true := by
  obtain ⟨z, hz⟩ := d.exists_toDigits_eq_append
  apply Nat.isDigit_of_mem_toDigits (b := 10) (by norm_num) le_rfl (n := d.digits)
  rw [hz]
  exact List.mem_append_left _ h

lemma digitsValue_append_replicate (digits : List Char) (z : Nat) :
    Number.digitsValue (digits ++ List.replicate z '0') = Number.digitsValue digits * 10 ^ z := by
  rw [Number.digitsValue, Nat.ofDigitChars_append, Nat.ofDigitChars_replicate_zero, mul_comm]
  rfl

/-- When the point stands after all digits, the value is that of the digits and the zeros that fill
the gap. -/
lemma toRat_eq_digitsValue {d : Decimal} (h : (d.significantDigits.length : Int) ≤ d.point) :
    d.toRat = Number.digitsValue (d.significantDigits ++
      List.replicate (d.point - d.significantDigits.length).toNat '0') := by
  obtain ⟨z, hz⟩ := d.exists_toDigits_eq_append
  have hvalue : d.digits = Number.digitsValue d.significantDigits * 10 ^ z := by
    rw [← digitsValue_append_replicate, ← hz, Number.digitsValue, Nat.ofDigitChars_ten_toDigits]
  have hpoint : d.point = d.significantDigits.length + (z + d.exponent) := by
    rw [point, hz, List.length_append, List.length_replicate]
    push_cast
    ring
  rw [digitsValue_append_replicate, toRat_eq, hvalue]
  push_cast
  rw [mul_assoc, ← zpow_natCast, ← zpow_natCast, ← zpow_add₀ (by norm_num)]
  congr 2
  omega

lemma length_significantDigits_le_point {d : Decimal} (h : 0 ≤ d.exponent) :
    (d.significantDigits.length : Int) ≤ d.point := by
  obtain ⟨z, hz⟩ := d.exists_toDigits_eq_append
  rw [point, hz, List.length_append]
  omega

lemma significantDigits_ne_nil {d : Decimal} (h : 0 < d.digits) : d.significantDigits ≠ [] := by
  intro hnil
  obtain ⟨z, hz⟩ := d.exists_toDigits_eq_append
  have hvalue : d.digits = Number.digitsValue ([] ++ List.replicate z '0') := by
    rw [← hnil, ← hz, Number.digitsValue, Nat.ofDigitChars_ten_toDigits]
  rw [digitsValue_append_replicate] at hvalue
  simp [Number.digitsValue] at hvalue
  omega

/-- The place of the point is the number of digits before it. -/
lemma point_le_iff {d : Decimal} (h : 0 < d.digits) {k : Int} :
    d.point ≤ k ↔ d.toRat < 10 ^ k := by
  obtain ⟨hlow, hhigh⟩ := zpow_length_toDigits_bounds h.ne'
  have hpos := ten_zpow_pos d.exponent
  have hlead : (10 : ℚ) ^ (d.point - 1) ≤ d.toRat := by
    rw [toRat_eq, point, add_sub_right_comm, zpow_add₀ (by norm_num)]
    exact mul_le_mul_of_nonneg_right hlow hpos.le
  have hbound : d.toRat < 10 ^ d.point := by
    rw [sub_add_cancel] at hhigh
    rw [toRat_eq, point, zpow_add₀ (by norm_num)]
    exact mul_lt_mul_of_pos_right hhigh hpos
  constructor
  · exact fun hk => hbound.trans_le (zpow_le_zpow_ten_iff.mpr hk)
  · intro hk
    have := zpow_lt_zpow_ten_iff.mp (hlead.trans_lt hk)
    omega

/-! ### Written decimals -/

lemma write_of_le {d : Decimal} (hcount : (d.significantDigits.length : Int) ≤ d.point)
    (hpoint : d.point ≤ 21) :
    d.write = d.significantDigits ++
      List.replicate (d.point - d.significantDigits.length).toNat '0' := by
  rw [write]
  exact if_pos ⟨hcount, hpoint⟩

lemma isDigit_of_mem_write {d : Decimal} (hcount : (d.significantDigits.length : Int) ≤ d.point)
    (hpoint : d.point ≤ 21) {c : Char} (h : c ∈ d.write) : c.isDigit = true := by
  rw [write_of_le hcount hpoint] at h
  rcases List.mem_append.mp h with h | h
  · exact isDigit_of_mem_significantDigits h
  · rw [(List.mem_replicate.mp h).2]
    rfl

/-- A decimal whose point is far to the right is written as one digit and a mark that no integer
goes past. -/
lemma write_of_lt {d : Decimal} (hdigits : 0 < d.digits) (hpoint : 21 < d.point) :
    ∃ lead mark rest, d.write = lead :: mark :: rest ∧ lead.isDigit = true ∧
      mark.isDigit = false := by
  have hlead : ∀ c ∈ d.significantDigits.head?, c.isDigit = true :=
    fun c hc => isDigit_of_mem_significantDigits (List.mem_of_mem_head? hc)
  simp only [write]
  rw [if_neg (by omega), if_neg (by omega), if_neg (by omega)]
  split
  · rename_i hnil
    exact absurd hnil (significantDigits_ne_nil hdigits)
  · rename_i lead hone
    rw [hone] at hlead
    exact ⟨lead, 'e', _, rfl, hlead lead rfl, by decide⟩
  · rename_i lead rest _ hmore
    rw [hmore] at hlead
    exact ⟨lead, '.', _, rfl, hlead lead rfl, by decide⟩

/-- The text of a positive decimal starts with a digit. -/
lemma exists_write_eq_cons {d : Decimal} (h : 0 < d.digits) :
    ∃ c rest, d.write = c :: rest ∧ c.isDigit = true := by
  obtain ⟨lead, more, hmore⟩ := List.exists_cons_of_ne_nil (significantDigits_ne_nil h)
  have hlead : lead.isDigit = true :=
    isDigit_of_mem_significantDigits (hmore ▸ List.mem_cons_self)
  by_cases hfar : 21 < d.point
  · obtain ⟨c, mark, rest, hwrite, hc, _⟩ := write_of_lt h hfar
    exact ⟨c, _, hwrite, hc⟩
  simp only [write]
  split
  · rw [hmore]
    exact ⟨lead, _, rfl, hlead⟩
  split
  · -- at least one digit stands before the point
    rename_i hpoint
    obtain ⟨k, hk⟩ : ∃ k, d.point.toNat = k + 1 := ⟨d.point.toNat - 1, by omega⟩
    rw [hmore, hk]
    exact ⟨lead, _, rfl, hlead⟩
  split
  · exact ⟨'0', _, rfl, by decide⟩
  · rw [hmore]
    cases more with
    | nil => exact ⟨lead, _, rfl, hlead⟩
    | cons _ _ => exact ⟨lead, _, rfl, hlead⟩

/-- A text of digits only is the value of its decimal. -/
lemma toRat_eq_of_isDigit {d : Decimal} (h : ∀ c ∈ d.write, c.isDigit = true) :
    d.toRat = Number.digitsValue d.write := by
  have hfront : (d.significantDigits.length : Int) ≤ d.point ∧ d.point ≤ 21 := by
    by_contra hother
    -- every other form has a mark that is no digit
    have hmark : '.' ∈ d.write ∨ 'e' ∈ d.write := by
      simp only [write, if_neg hother]
      split
      · exact Or.inl (by simp)
      split
      · exact Or.inl (by simp)
      split
      · exact Or.inr (by simp [exponentPart])
      · exact Or.inr (by simp [exponentPart])
      · exact Or.inl (by simp)
    rcases hmark with hmark | hmark
    · exact absurd (h _ hmark) (by decide)
    · exact absurd (h _ hmark) (by decide)
  rw [write_of_le hfront.1 hfront.2]
  exact toRat_eq_digitsValue hfront.1

end Decimal

namespace Number

/-! ### The texts of large integers -/

lemma writeMagnitude_of_lt {n : Nat} (h : 2 ^ 53 < n) :
    writeMagnitude (n : ℚ) = (Decimal.shortest (n : ℚ)).write := by
  rw [writeMagnitude, if_neg]
  rintro ⟨_, hn⟩
  rw [Rat.num_natCast, Int.natAbs_natCast, Nat.pow_eq] at hn
  omega

/-- The text of a number that is not negative starts with a digit. -/
lemma exists_writeMagnitude_eq_cons {q : ℚ} (hq : 0 ≤ q) :
    ∃ c rest, writeMagnitude q = c :: rest ∧ c.isDigit = true := by
  rw [writeMagnitude]
  split
  · obtain ⟨c, rest, hdigits⟩ :=
      List.exists_cons_of_ne_nil (Nat.toDigits_ne_nil (n := q.num.natAbs) (b := 10))
    refine ⟨c, rest, hdigits, ?_⟩
    exact Nat.isDigit_of_mem_toDigits (by norm_num) le_rfl (hdigits ▸ List.mem_cons_self)
  · rename_i hshort
    apply Decimal.exists_write_eq_cons
    apply Decimal.digits_shortest_pos (lt_of_le_of_ne hq _)
    rintro rfl
    exact hshort (by decide)

/-- Every number has a text. -/
lemma chars_ne_nil (a : Number) : a.chars ≠ [] := by
  cases a with
  | nan => decide
  | infinity negative => cases negative <;> decide
  | negZero => decide
  | finite q =>
    rw [chars_finite]
    split
    · exact List.cons_ne_nil _ _
    · rename_i hq
      obtain ⟨c, rest, hwrite, _⟩ := exists_writeMagnitude_eq_cons (not_lt.mp hq)
      rw [hwrite]
      exact List.cons_ne_nil c rest

/-- A safe integer is the only natural number with its digits as text. -/
lemma eq_of_writeMagnitude_eq {m n : Nat} (hn : n < 2 ^ 53)
    (h : writeMagnitude (m : ℚ) = Nat.toDigits 10 n) : m = n := by
  rcases le_or_gt m (2 ^ 53) with hm | hm
  · rw [writeMagnitude_natCast hm] at h
    rw [← Nat.ofDigitChars_ten_toDigits (n := m), h, Nat.ofDigitChars_ten_toDigits]
  · rw [writeMagnitude_of_lt hm] at h
    have hdigit : ∀ c ∈ (Decimal.shortest (m : ℚ)).write, c.isDigit = true := by
      intro c hc
      rw [h] at hc
      exact Nat.isDigit_of_mem_toDigits (by norm_num) le_rfl hc
    have hvalue := Decimal.toRat_eq_of_isDigit hdigit
    rw [h, digitsValue, Nat.ofDigitChars_ten_toDigits] at hvalue
    exact absurd hvalue (Decimal.toRat_shortest_ne hm hn)

/-- The integers with the text of a safe one are equal to it. -/
lemma eq_of_chars_ofInt_eq {m n : Int} (hn : n.natAbs < 2 ^ 53)
    (h : (ofInt m).chars = (ofInt n).chars) : m = n := by
  have hminus : ∀ (k : Nat) (rest : List Char), writeMagnitude (k : ℚ) ≠ '-' :: rest := by
    intro k rest heq
    obtain ⟨c, more, hwrite, hdigit⟩ := exists_writeMagnitude_eq_cons (Nat.cast_nonneg k)
    rw [hwrite, List.cons.injEq] at heq
    rw [heq.1] at hdigit
    cases hdigit
  rw [chars_ofInt_eq, chars_ofInt_eq] at h
  -- both are written with a sign or both without
  split_ifs at h with hm hnNeg hnNeg
  · rw [List.cons.injEq, writeMagnitude_natCast hn.le] at h
    have := eq_of_writeMagnitude_eq hn h.2
    omega
  · exact absurd h.symm (hminus _ _)
  · exact absurd h (hminus _ _)
  · rw [writeMagnitude_natCast hn.le] at h
    have := eq_of_writeMagnitude_eq hn h
    omega

lemma eqv_ofInt {m n : Int} : (ofInt m).eqv (ofInt n) = true ↔ m = n := by
  have heqv : (ofInt m).eqv (ofInt n) = decide ((m : ℚ) = n) := eqv_finite _ _
  rw [heqv, decide_eq_true_eq, Int.cast_inj]

/-- Of all integers only those equal to a safe integer have its text. The two zeros are equal. -/
lemma text_eq_text_iff {a b : Number} (ha : a.IsSafe) (hb : b.isInteger = true) :
    a.text = b.text ↔ a.eqv b = true := by
  obtain ⟨n, hn, rfl⟩ := ha
  have hint : ∀ m : Int, (ofInt n).text = (ofInt m).text ↔ (ofInt n).eqv (ofInt m) = true := by
    intro m
    rw [eqv_ofInt, text, text, String.ofList_inj]
    constructor
    · exact fun h => (eq_of_chars_ofInt_eq (by omega) h.symm).symm
    · rintro rfl
      rfl
  rcases isInteger_iff.mp hb with rfl | ⟨m, rfl⟩
  · -- the negative zero is compared and written like the positive one
    have heqv : (ofInt n).eqv negZero = (ofInt n).eqv (ofInt 0) := rfl
    have htext : negZero.text = (ofInt 0).text := by
      rw [text, text, chars_ofInt (by norm_num)]
      rfl
    rw [heqv, htext]
    exact hint 0
  · exact hint m

/-! ### Reading large integers back -/

lemma chars_natCast (n : Nat) : (ofInt n).chars = writeMagnitude (n : ℚ) := by
  rw [chars_ofInt_eq, if_neg (by omega), Int.natAbs_natCast]

/-- Below `10 ^ 21` all digits are written, and they are rounded to the integer. -/
lemma writeMagnitude_spec {n : Nat} (hpos : 0 < n) (hn : nearest (n : ℚ) = some (n : ℚ))
    (hlt : n < 10 ^ 21) :
    (∀ c ∈ writeMagnitude (n : ℚ), c.isDigit = true) ∧
      nearest (digitsValue (writeMagnitude (n : ℚ)) : ℚ) = some (n : ℚ) := by
  rcases le_or_gt n (2 ^ 53) with hsmall | hlarge
  · rw [writeMagnitude_natCast hsmall, digitsValue, Nat.ofDigitChars_ten_toDigits]
    exact ⟨fun c hc => Nat.isDigit_of_mem_toDigits (by norm_num) le_rfl hc, hn⟩
  have hone : (1 : ℚ) ≤ n := by exact_mod_cast hpos
  have hcount := Decimal.length_significantDigits_le_point
    (Decimal.exponent_shortest_nonneg hpos hn)
  have hpoint : (Decimal.shortest (n : ℚ)).point ≤ 21 := by
    rw [Decimal.point_le_iff (Decimal.digits_shortest_pos (by linarith))]
    apply Decimal.toRat_shortest_lt hn hone
    · norm_num
      decide +kernel
    · exact_mod_cast hlt
  have hdigit : ∀ c ∈ (Decimal.shortest (n : ℚ)).write, c.isDigit = true :=
    fun c hc => Decimal.isDigit_of_mem_write hcount hpoint hc
  rw [writeMagnitude_of_lt hlarge, ← Decimal.toRat_eq_of_isDigit hdigit]
  exact ⟨hdigit, Decimal.nearest_toRat_shortest hn hone⟩

/-- A positive binary64 integer below `10 ^ 21` is read back from its text. -/
lemma ofIntegerStart_chars_of_lt {n : Nat} (hpos : 0 < n) (hn : nearest (n : ℚ) = some (n : ℚ))
    (hlt : n < 10 ^ 21) : ofIntegerStart (ofInt n).chars = ofInt n := by
  obtain ⟨hdigit, hround⟩ := writeMagnitude_spec hpos hn hlt
  obtain ⟨c, rest, hwrite, hc⟩ := exists_writeMagnitude_eq_cons (Nat.cast_nonneg n)
  have hvalue : 0 < digitsValue (writeMagnitude (n : ℚ)) := by
    by_contra hzero
    have hnone : nearest ((0 : Nat) : ℚ) = some 0 := by
      decide +kernel
    rw [Nat.eq_zero_of_not_pos hzero, hnone, Option.some.injEq] at hround
    exact hpos.ne (by exact_mod_cast hround)
  rw [chars_natCast, ofIntegerStart_of_isDigit ⟨c, by rw [hwrite]; rfl, hc⟩,
    ← List.append_nil (writeMagnitude (n : ℚ)),
    ofDigitStart_append false (by simp [hwrite]) hdigit (by simp), ofDecimal_eq_round false hvalue,
    round_of_nearest (by exact_mod_cast hvalue.ne') hround]
  rfl

lemma digitsValue_singleton_lt {c : Char} (h : c.isDigit = true) : digitsValue [c] < 10 := by
  have hnine : c.toNat ≤ '9'.toNat := by
    simp only [Char.isDigit, Bool.and_eq_true, decide_eq_true_eq] at h
    exact h.2
  have hvalue : digitsValue [c] = c.toNat - '0'.toNat := by
    simp [digitsValue, Nat.ofDigitChars]
  have hdigits : '9'.toNat = 57 ∧ '0'.toNat = 48 := ⟨rfl, rfl⟩
  rw [hvalue]
  omega

/-- From `10 ^ 21` on the text of an integer has an exponent, and what is read back from it has
another text. -/
lemma text_ofIntegerStart_chars_of_le {n : Nat} (h : 10 ^ 21 ≤ n) :
    (ofIntegerStart (ofInt n).chars).text ≠ (ofInt n).text := by
  have hlarge : 2 ^ 53 < n := lt_of_lt_of_le (by norm_num) h
  have hq : (0 : ℚ) < n := by exact_mod_cast (by omega : 0 < n)
  have hdigits := Decimal.digits_shortest_pos hq
  have hpoint : 21 < (Decimal.shortest (n : ℚ)).point := by
    rw [← not_le, Decimal.point_le_iff hdigits, not_lt]
    have hlead : 21 ≤ Decimal.leadingExponent (n : ℚ) := by
      rw [Decimal.le_leadingExponent_iff hq]
      exact_mod_cast h
    exact (Decimal.zpow_le_zpow_ten_iff.mpr hlead).trans (Decimal.toRat_shortest_bounds hq).1
  obtain ⟨lead, mark, rest, hwrite, hlead, hmark⟩ := Decimal.write_of_lt hdigits hpoint
  have hchars : (ofInt n).chars = [lead] ++ mark :: rest := by
    rw [chars_natCast, writeMagnitude_of_lt hlarge, hwrite]
    rfl
  have hsmall := digitsValue_singleton_lt hlead
  -- only the first digit is read
  have hread : ofIntegerStart (ofInt n).chars = ofInt (digitsValue [lead]) := by
    rw [hchars, ofIntegerStart_of_isDigit ⟨lead, rfl, hlead⟩,
      ofDigitStart_append false (by simp) (by simpa using hlead) (by simpa using hmark),
      ofDecimal_of_lt (by omega)]
  rw [hread, text, text, ne_eq, String.ofList_inj]
  intro heq
  have := eq_of_chars_ofInt_eq (by omega) heq.symm
  omega

/-! ### Dimensions -/

lemma lt_tenPow_iff (n : Nat) :
    (ofInt n).lt (ofInt (10 ^ 21)) = true ↔ n < 10 ^ 21 := by
  have hlt : (ofInt n).lt (ofInt (10 ^ 21)) =
      decide (((n : Int) : ℚ) < ((10 ^ 21 : Int) : ℚ)) := lt_finite _ _
  rw [hlt, decide_eq_true_eq, Int.cast_lt]
  norm_cast

/-- A dimension below `10 ^ 21` is read back from its text. -/
lemma IsDimension.ofIntegerStart_chars {a : Number} (h : a.IsDimension)
    (hlt : a.lt (ofInt (10 ^ 21)) = true) : ofIntegerStart a.chars = a := by
  obtain ⟨n, hpos, hn, rfl⟩ := h
  exact ofIntegerStart_chars_of_lt hpos hn ((lt_tenPow_iff n).mp hlt)

/-- What is read back from the text of a dimension is written in the same way only for dimensions
below `10 ^ 21`. -/
lemma IsDimension.text_ofIntegerStart_iff {a : Number} (h : a.IsDimension) :
    (ofIntegerStart a.chars).text = a.text ↔ a.lt (ofInt (10 ^ 21)) = true := by
  constructor
  · intro htext
    obtain ⟨n, _, _, rfl⟩ := h
    rw [lt_tenPow_iff]
    by_contra hlarge
    exact text_ofIntegerStart_chars_of_le (not_lt.mp hlarge) htext
  · intro hlt
    rw [h.ofIntegerStart_chars hlt]

end Number

end Elementwise
