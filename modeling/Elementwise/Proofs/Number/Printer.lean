import Elementwise.Extent
import Elementwise.Number.Numeral
import Elementwise.Number.Printer
import Elementwise.Proofs.Number.Rounding
import Elementwise.Proofs.Text.Class

/-!
# The texts of numbers

The text of any number is made of letters, digits, signs and points, so it can stand between
separators. The text of a safe integer is its decimal numeral, from which the integer is read back.
-/

namespace Elementwise

open Text

/-! ### The characters of a number -/

/-- The characters that texts of numbers are made of. -/
def isNumeralChar (c : Char) : Bool := c.isAlphanum || c == '-' || c == '+' || c == '.'

lemma isNumeralChar_of_isDigit {c : Char} (h : c.isDigit = true) : isNumeralChar c = true := by
  simp [isNumeralChar, Char.isAlphanum, h]

lemma isBlank_eq_false_of_isNumeralChar {c : Char} (h : isNumeralChar c = true) :
    isBlank c = false := by
  simp only [isNumeralChar, Bool.or_eq_true, beq_iff_eq] at h
  rcases h with ((h | rfl) | rfl) | rfl
  · exact isBlank_eq_false_of_isWordChar (by simp [isWordChar, h])
  · decide
  · decide
  · decide

lemma isNumeralChar_of_mem_toDigits {n : Nat} {c : Char} (h : c ∈ Nat.toDigits 10 n) :
    isNumeralChar c = true :=
  isNumeralChar_of_isDigit (Nat.isDigit_of_mem_toDigits (by norm_num) le_rfl h)

namespace Decimal

lemma isNumeralChar_of_mem_significantDigits {d : Decimal} {c : Char}
    (h : c ∈ d.significantDigits) : isNumeralChar c = true := by
  rw [significantDigits, List.mem_reverse] at h
  have := (List.dropWhile_suffix _).subset h
  exact isNumeralChar_of_mem_toDigits (List.mem_reverse.mp this)

lemma isNumeralChar_of_mem_exponentPart {e : Int} {c : Char} (h : c ∈ exponentPart e) :
    isNumeralChar c = true := by
  simp only [exponentPart, List.mem_cons] at h
  rcases h with rfl | rfl | h
  · decide
  · split <;> decide
  · exact isNumeralChar_of_mem_toDigits h

lemma isNumeralChar_of_mem_write {d : Decimal} {c : Char} (h : c ∈ d.write) :
    isNumeralChar c = true := by
  have hzeros : ∀ n, c ∈ List.replicate n '0' → isNumeralChar c = true := by
    intro n hn
    rw [(List.mem_replicate.mp hn).2]
    decide
  have hdigits : c ∈ d.significantDigits → isNumeralChar c = true :=
    isNumeralChar_of_mem_significantDigits
  have hexponent : ∀ e, c ∈ exponentPart e → isNumeralChar c = true :=
    fun _ => isNumeralChar_of_mem_exponentPart
  simp only [write] at h
  split at h
  · -- all digits before the point
    rcases List.mem_append.mp h with h | h
    · exact hdigits h
    · exact hzeros _ h
  split at h
  · -- the point among the digits
    rcases List.mem_append.mp h with h | h
    · exact hdigits (List.mem_of_mem_take h)
    · rcases List.mem_cons.mp h with rfl | h
      · decide
      · exact hdigits (List.mem_of_mem_drop h)
  split at h
  · -- the point before the digits
    simp only [List.cons_append, List.mem_cons, List.mem_append] at h
    rcases h with rfl | rfl | h | h
    · decide
    · decide
    · exact hzeros _ h
    · exact hdigits h
  · -- an exponent
    split at h
    · exact hexponent _ h
    · rename_i lead hlead
      rcases List.mem_cons.mp h with rfl | h
      · exact hdigits (by rw [hlead]; simp)
      · exact hexponent _ h
    · rename_i lead rest _ hlead
      simp only [List.cons_append, List.mem_cons, List.mem_append] at h
      rcases h with rfl | rfl | h | h
      · exact hdigits (by rw [hlead]; simp)
      · decide
      · exact hdigits (by rw [hlead]; exact List.mem_cons_of_mem _ h)
      · exact hexponent _ h

end Decimal

namespace Number

lemma isNumeralChar_of_mem_writeMagnitude {q : ℚ} {c : Char} (h : c ∈ writeMagnitude q) :
    isNumeralChar c = true := by
  rw [writeMagnitude] at h
  split at h
  · exact isNumeralChar_of_mem_toDigits h
  · exact Decimal.isNumeralChar_of_mem_write h

lemma chars_finite (q : ℚ) :
    chars (.finite q) = if q < 0 then '-' :: writeMagnitude (-q) else writeMagnitude q := rfl

/-- Every number is written with numeral characters only. -/
lemma isNumeralChar_of_mem_chars {a : Number} {c : Char} (h : c ∈ a.chars) :
    isNumeralChar c = true := by
  cases a with
  | nan =>
    have : ∀ d ∈ chars nan, isNumeralChar d = true := by decide
    exact this c h
  | infinity negative =>
    have : ∀ d ∈ chars (infinity negative), isNumeralChar d = true := by
      cases negative <;> decide
    exact this c h
  | negZero =>
    have : ∀ d ∈ chars negZero, isNumeralChar d = true := by decide
    exact this c h
  | finite q =>
    rw [chars_finite] at h
    split at h
    · rcases List.mem_cons.mp h with rfl | h
      · decide
      · exact isNumeralChar_of_mem_writeMagnitude h
    · exact isNumeralChar_of_mem_writeMagnitude h

lemma toList_text (a : Number) : a.text.toList = a.chars := String.toList_ofList

/-- A mark that is no numeral character does not occur in the text of a number. -/
lemma not_mem_text {mark : Char} (hmark : isNumeralChar mark = false) (a : Number) :
    mark ∉ a.text.toList := by
  rw [toList_text]
  exact not_mem_of_forall (fun c hc => isNumeralChar_of_mem_chars hc) hmark

/-! ### Safe integers -/

/-- Whether the number is an integer whose magnitude is at most `2 ^ 53 - 1`. The negative zero is
not one. -/
def IsSafe (a : Number) : Prop := ∃ n : Int, n.natAbs ≤ 2 ^ 53 - 1 ∧ a = ofInt n

lemma writeMagnitude_natCast {n : Nat} (h : n ≤ 2 ^ 53) :
    writeMagnitude (n : ℚ) = Nat.toDigits 10 n := by
  rw [writeMagnitude, if_pos]
  · rw [Rat.num_natCast, Int.natAbs_natCast]
  · exact ⟨Rat.den_natCast n, by rwa [Rat.num_natCast, Int.natAbs_natCast]⟩

/-- An integer is written by its sign and its magnitude. -/
lemma chars_ofInt_eq (n : Int) :
    (ofInt n).chars =
      if n < 0 then '-' :: writeMagnitude (n.natAbs : ℚ) else writeMagnitude (n.natAbs : ℚ) := by
  rw [ofInt, chars_finite]
  by_cases hn : n < 0
  · have hneg : (-(n : ℚ)) = (n.natAbs : ℚ) := by
      rw [Nat.cast_natAbs, abs_of_neg hn, Int.cast_neg]
    rw [if_pos (by exact_mod_cast hn), if_pos hn, hneg]
  · have hpos : (n : ℚ) = (n.natAbs : ℚ) := by
      rw [Nat.cast_natAbs, abs_of_nonneg (not_lt.mp hn)]
    rw [if_neg (by exact_mod_cast hn), if_neg hn, hpos]

/-- A safe integer is written by its sign and its decimal digits. -/
lemma chars_ofInt {n : Int} (h : n.natAbs ≤ 2 ^ 53) :
    (ofInt n).chars =
      if n < 0 then '-' :: Nat.toDigits 10 n.natAbs else Nat.toDigits 10 n.natAbs := by
  rw [chars_ofInt_eq, writeMagnitude_natCast h]

lemma round_of_nearest {q r : ℚ} (hq : q ≠ 0) (h : Binary64.nearest q = some r) :
    round false q = .finite r := by
  rw [round, if_neg hq, h]
  dsimp only
  split
  · rename_i hr
    rw [hr]
    rfl
  · rfl

lemma round_natCast {n : Nat} (negative : Bool) (hpos : 0 < n) (h : n < 2 ^ 53) :
    round negative (n : ℚ) = ofInt (if negative then -n else n) := by
  have hne : (n : ℚ) ≠ 0 := by exact_mod_cast hpos.ne'
  rw [round, if_neg hne, Binary64.nearest_natCast hpos h]
  simp only [if_neg hne, ofInt]
  split <;> push_cast <;> rfl

lemma ofDecimal_eq_round {n : Nat} (negative : Bool) (hpos : 0 < n) :
    ofDecimal negative n 0 = round negative (n : ℚ) := by
  have hlog : ¬ ((0 : Int) + (n.log2 : Int) < -400) := by omega
  rw [ofDecimal, if_neg hpos.ne', if_neg (by norm_num), if_neg hlog, if_pos le_rfl]
  simp [Rat.mkRat_eq_div]

lemma ofDecimal_natCast {n : Nat} (negative : Bool) (hpos : 0 < n) (h : n < 2 ^ 53) :
    ofDecimal negative n 0 = ofInt (if negative then -n else n) := by
  rw [ofDecimal_eq_round negative hpos, round_natCast negative hpos h]

lemma ofDecimal_of_lt {n : Nat} (h : n < 2 ^ 53) : ofDecimal false n 0 = ofInt n := by
  rcases Nat.eq_zero_or_pos n with rfl | hpos
  · rfl
  · exact ofDecimal_natCast false hpos h

/-- Decimal digits are read up to their end. -/
lemma ofDigitStart_append (negative : Bool) {digits rest : List Char} (hne : digits ≠ [])
    (hdigits : ∀ c ∈ digits, c.isDigit = true) (hrest : ∀ c ∈ rest.head?, c.isDigit = false) :
    ofDigitStart negative (digits ++ rest) = ofDecimal negative (digitsValue digits) 0 := by
  rw [ofDigitStart, takeWhile_append_of_boundary hdigits hrest]
  cases digits with
  | nil => exact absurd rfl hne
  | cons c rest => rfl

lemma ofDigitStart_toDigits (negative : Bool) (n : Nat) :
    ofDigitStart negative (Nat.toDigits 10 n) = ofDecimal negative n 0 := by
  have hdigits : ∀ c ∈ Nat.toDigits 10 n, c.isDigit = true :=
    fun c hc => Nat.isDigit_of_mem_toDigits (by norm_num) le_rfl hc
  rw [← List.append_nil (Nat.toDigits 10 n),
    ofDigitStart_append negative Nat.toDigits_ne_nil hdigits (by simp), digitsValue,
    Nat.ofDigitChars_ten_toDigits]

/-- No sign is read before a digit. -/
lemma ofIntegerStart_of_isDigit {text : List Char} (h : ∃ c ∈ text.head?, c.isDigit = true) :
    ofIntegerStart text = ofDigitStart false text := by
  obtain ⟨c, hc, hdigit⟩ := h
  have hhead : ∀ d ∈ text.head?, d.isDigit = true := by
    intro d hd
    rwa [Option.mem_unique hd hc]
  have hskip : skipBlanks text = text := skipBlanks_eq_self fun d hd =>
    isBlank_eq_false_of_isNumeralChar (isNumeralChar_of_isDigit (hhead d hd))
  rw [ofIntegerStart, hskip]
  split
  · exact absurd (hhead '-' rfl) (by decide)
  · exact absurd (hhead '+' rfl) (by decide)
  · rfl

/-- The digits of a safe integer stand for it, whatever zeros they start with. -/
lemma ofIntegerStart_of_forall_isDigit {digits : List Char} (hne : digits ≠ [])
    (hdigits : ∀ c ∈ digits, c.isDigit = true) (h : digitsValue digits < 2 ^ 53) :
    ofIntegerStart digits = ofInt (digitsValue digits) := by
  have hhead : ∃ c ∈ digits.head?, c.isDigit = true :=
    ⟨_, List.head?_eq_some_head hne, hdigits _ (List.head_mem hne)⟩
  rw [ofIntegerStart_of_isDigit hhead, ← ofDecimal_of_lt h,
    ← ofDigitStart_append false hne hdigits (show ∀ c ∈ [].head?, _ from by simp),
    List.append_nil]

lemma ofNumeral_of_forall_isDigit {digits : List Char} (hne : digits ≠ [])
    (hdigits : ∀ c ∈ digits, c.isDigit = true) (h : digitsValue digits < 2 ^ 53) :
    ofNumeral digits = ofInt (digitsValue digits) := by
  have hother : ∀ {c : Char}, c.isDigit = false → c ∉ digits := not_mem_of_forall hdigits
  have hblank : ∀ c ∈ digits, isBlank c = false :=
    fun c hc => isBlank_eq_false_of_isNumeralChar (isNumeralChar_of_isDigit (hdigits c hc))
  have htrim : trim ([] ++ (digits ++ [])) = digits :=
    trim_append_of_not_isBlank hne (by simp) (by simp) hblank
  rw [List.nil_append, List.append_nil] at htrim
  have hunsigned : ofUnsigned false digits = ofInt (digitsValue digits) := by
    have htake : digits.takeWhile Char.isDigit = digits := List.takeWhile_eq_self_iff.mpr hdigits
    have hdrop : digits.dropWhile Char.isDigit = [] := List.dropWhile_eq_nil_iff.mpr hdigits
    simp [ofUnsigned, htake, hdrop, hne, exponentValue?, ofDecimal_of_lt h]
  have hmagnitude : ofMagnitude false digits = ofInt (digitsValue digits) := by
    rw [ofMagnitude, if_neg, hunsigned]
    rintro rfl
    exact hother (c := 'I') (by decide) (by decide)
  rw [ofNumeral, htrim]
  -- no prefix of another base and no sign is made of digits
  split
  · exact absurd rfl hne
  · exact absurd (by simp) (hother (c := 'x') (by decide))
  · exact absurd (by simp) (hother (c := 'X') (by decide))
  · exact absurd (by simp) (hother (c := 'o') (by decide))
  · exact absurd (by simp) (hother (c := 'O') (by decide))
  · exact absurd (by simp) (hother (c := 'b') (by decide))
  · exact absurd (by simp) (hother (c := 'B') (by decide))
  · exact absurd (by simp) (hother (c := '-') (by decide))
  · exact absurd (by simp) (hother (c := '+') (by decide))
  · exact hmagnitude

/-- A safe integer is read back from its text. -/
lemma ofIntegerStart_chars {a : Number} (h : a.IsSafe) : ofIntegerStart a.chars = a := by
  obtain ⟨n, hn, rfl⟩ := h
  rw [chars_ofInt (by omega)]
  by_cases hneg : n < 0
  · rw [if_pos hneg]
    have hsign : ofIntegerStart ('-' :: Nat.toDigits 10 n.natAbs) =
        ofDigitStart true (Nat.toDigits 10 n.natAbs) := rfl
    rw [hsign, ofDigitStart_toDigits, ofDecimal_natCast true (by omega) (by omega)]
    congr 1
    simp only [↓reduceIte]
    omega
  · have hdigits : ∀ c ∈ Nat.toDigits 10 n.natAbs, c.isDigit = true :=
      fun c hc => Nat.isDigit_of_mem_toDigits (by norm_num) le_rfl hc
    have hvalue : digitsValue (Nat.toDigits 10 n.natAbs) = n.natAbs :=
      Nat.ofDigitChars_ten_toDigits
    rw [if_neg hneg, ofIntegerStart_of_forall_isDigit Nat.toDigits_ne_nil hdigits (by omega),
      hvalue]
    congr 1
    omega

/-- Safe integers with the same text are the same. -/
lemma text_injective_of_isSafe {a b : Number} (ha : a.IsSafe) (hb : b.IsSafe)
    (h : a.text = b.text) : a = b := by
  rw [text, text, String.ofList_inj] at h
  rw [← ofIntegerStart_chars ha, ← ofIntegerStart_chars hb, h]

end Number

def Extent.IsSafe (size : Extent) : Prop := ∀ a ∈ size.toList, a.IsSafe

lemma Extent.isSafe_iff {size : Extent} :
    size.IsSafe ↔ size.x.IsSafe ∧ size.y.IsSafe ∧ size.z.IsSafe := by
  simp [Extent.IsSafe, Extent.toList]

end Elementwise
