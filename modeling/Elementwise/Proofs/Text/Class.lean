import Elementwise.Text
import Mathlib.Data.List.TakeWhile
import Mathlib.Tactic

/-!
# Classes of characters

Word characters and blanks exclude each other, and so a name ends where a blank or a punctuation
mark follows it. The lemmas about `takeWhile` and `dropWhile` at such a boundary carry the readers
of declarations.
-/

namespace Elementwise.Text

/-! ### Deciding statements about characters

A statement about the characters of a text is decided by going through the text. Without these
instances it could also be decided by going through all characters there are. -/

section

variable (p : Char → Prop) [DecidablePred p]

instance decidableForallMemText (text : List Char) : Decidable (∀ c ∈ text, p c) :=
  List.decidableBAll p text

instance decidableForallMemOption (c? : Option Char) : Decidable (∀ c ∈ c?, p c) :=
  Option.decidableForallMem c?

instance decidableExistsMemOption (c? : Option Char) : Decidable (∃ c ∈ c?, p c) :=
  Option.decidableExistsMem c?

end

/-! ### Word characters and blanks -/

/-- The word characters by code point. -/
lemma isWordChar_iff (c : Char) :
    isWordChar c = true ↔ (48 ≤ c.toNat ∧ c.toNat ≤ 57) ∨ (65 ≤ c.toNat ∧ c.toNat ≤ 90) ∨
      (97 ≤ c.toNat ∧ c.toNat ≤ 122) ∨ c.toNat = 95 := by
  have hranges : isWordChar c =
      (decide (c.val ≥ 'A'.val ∧ c.val ≤ 'Z'.val) ||
        (decide (c.val ≥ 'a'.val) && decide (c.val ≤ 'z'.val)) ||
        (decide (c.val ≥ '0'.val) && decide (c.val ≤ '9'.val)) || c == '_') := rfl
  simp only [hranges, Char.ext_iff, UInt32.le_iff_toNat_le, UInt32.toNat_inj.symm, beq_iff_eq,
    Bool.or_eq_true, Bool.and_eq_true, decide_eq_true_eq, ge_iff_le]
  simp only [Char.toNat_val, Char.reduceVal, UInt32.reduceToNat]
  omega

lemma isBlank_eq_false_of_isWordChar {c : Char} (h : isWordChar c = true) : isBlank c = false := by
  rw [isWordChar_iff] at h
  simp only [isBlank, Bool.or_eq_false_iff, Bool.and_eq_false_iff, decide_eq_false_iff_not,
    beq_eq_false_iff_ne]
  omega

lemma isWordChar_eq_false_of_isBlank {c : Char} (h : isBlank c = true) : isWordChar c = false := by
  by_contra hc
  rw [Bool.not_eq_false] at hc
  rw [isBlank_eq_false_of_isWordChar hc] at h
  cases h

lemma isWordChar_of_isNameStart {c : Char} (h : isNameStart c = true) : isWordChar c = true := by
  simp only [isNameStart, isWordChar, Char.isAlphanum, Bool.or_eq_true] at h ⊢
  tauto

/-- A name starts with any word character but a digit. -/
lemma isNameStart_iff (c : Char) :
    isNameStart c = true ↔ isWordChar c = true ∧ c.isDigit = false := by
  have hstart : isNameStart c =
      (decide (c.val ≥ 'A'.val ∧ c.val ≤ 'Z'.val) ||
        (decide (c.val ≥ 'a'.val) && decide (c.val ≤ 'z'.val)) || c == '_') := rfl
  have hdigit : c.isDigit = (decide (c.val ≥ '0'.val) && decide (c.val ≤ '9'.val)) := rfl
  rw [isWordChar_iff, hstart, hdigit]
  simp only [Char.ext_iff, UInt32.le_iff_toNat_le, UInt32.toNat_inj.symm, beq_iff_eq,
    Bool.or_eq_true, Bool.and_eq_true, Bool.and_eq_false_iff, decide_eq_true_eq,
    decide_eq_false_iff_not, ge_iff_le]
  simp only [Char.toNat_val, Char.reduceVal, UInt32.reduceToNat]
  omega

/-- A mark outside of a class does not occur among characters of the class. -/
lemma not_mem_of_forall {p : Char → Bool} {text : List Char} {mark : Char}
    (htext : ∀ c ∈ text, p c = true) (hmark : p mark = false) : mark ∉ text := by
  intro hmem
  rw [htext mark hmem] at hmark
  cases hmark

/-! ### Names -/

lemma isName_iff {s : List Char} :
    isName s = true ↔ ∃ c rest, s = c :: rest ∧ isNameStart c = true ∧
      ∀ d ∈ rest, isWordChar d = true := by
  cases s with
  | nil => simp [isName]
  | cons c rest => simp [isName]

/-- A name is a word that does not start with a digit. -/
lemma isName_iff_not_isDigit {s : List Char} :
    isName s = true ↔ s ≠ [] ∧ (∀ c ∈ s, isWordChar c = true) ∧
      ∀ c ∈ s.head?, c.isDigit = false := by
  cases s with
  | nil => simp [isName]
  | cons c rest => simp [isName, isNameStart_iff, and_right_comm]

lemma isWordChar_of_mem_isName {s : List Char} (h : isName s = true) :
    ∀ c ∈ s, isWordChar c = true := by
  obtain ⟨c, rest, rfl, hc, hrest⟩ := isName_iff.mp h
  intro d hd
  rcases List.mem_cons.mp hd with rfl | hd
  · exact isWordChar_of_isNameStart hc
  · exact hrest d hd

/-- A mark that is not a word character does not occur in a name. -/
lemma not_mem_of_isName {s : List Char} {mark : Char} (h : isName s = true)
    (hmark : isWordChar mark = false) : mark ∉ s :=
  not_mem_of_forall (isWordChar_of_mem_isName h) hmark

/-! ### Boundaries -/

/-- A run of one class stops where the next character is not of the class. -/
lemma takeWhile_append_of_boundary {p : Char → Bool} {run rest : List Char}
    (hrun : ∀ c ∈ run, p c = true) (hrest : ∀ c ∈ rest.head?, p c = false) :
    (run ++ rest).takeWhile p = run := by
  rw [List.takeWhile_append_of_pos hrun]
  cases rest with
  | nil => simp
  | cons c rest => simp [hrest c rfl]

lemma dropWhile_append_of_boundary {p : Char → Bool} {run rest : List Char}
    (hrun : ∀ c ∈ run, p c = true) (hrest : ∀ c ∈ rest.head?, p c = false) :
    (run ++ rest).dropWhile p = rest := by
  rw [List.dropWhile_append_of_pos hrun]
  cases rest with
  | nil => rfl
  | cons c rest => simp [hrest c rfl]

/-- Two runs of one class that both stop at a boundary are equal as soon as the texts are. -/
lemma append_inj_of_boundary {p : Char → Bool} {run run' rest rest' : List Char}
    (hrun : ∀ c ∈ run, p c = true) (hrest : ∀ c ∈ rest.head?, p c = false)
    (hrun' : ∀ c ∈ run', p c = true) (hrest' : ∀ c ∈ rest'.head?, p c = false)
    (h : run ++ rest = run' ++ rest') : run = run' ∧ rest = rest' := by
  constructor
  · rw [← takeWhile_append_of_boundary hrun hrest, h, takeWhile_append_of_boundary hrun' hrest']
  · rw [← dropWhile_append_of_boundary hrun hrest, h, dropWhile_append_of_boundary hrun' hrest']

/-- What is left behind a run does not go on with the class of the run. -/
lemma head?_dropWhile_eq_false (p : Char → Bool) (text : List Char) :
    ∀ c ∈ (text.dropWhile p).head?, p c = false := by
  intro c hc
  have := List.head?_dropWhile_not p text
  rw [Option.mem_def.mp hc] at this
  simpa using this

/-- Skipping blanks passes over a run of blanks and nothing else. -/
lemma skipBlanks_append_of_boundary {blanks rest : List Char}
    (hblanks : ∀ c ∈ blanks, isBlank c = true) (hrest : ∀ c ∈ rest.head?, isBlank c = false) :
    skipBlanks (blanks ++ rest) = rest :=
  dropWhile_append_of_boundary hblanks hrest

lemma skipBlanks_eq_self {text : List Char} (h : ∀ c ∈ text.head?, isBlank c = false) :
    skipBlanks text = text := by
  have hnil : ∀ c ∈ ([] : List Char), isBlank c = true := by simp
  simpa using skipBlanks_append_of_boundary hnil h

lemma exists_blanks_append_skipBlanks (text : List Char) :
    ∃ blanks, (∀ c ∈ blanks, isBlank c = true) ∧ text = blanks ++ skipBlanks text :=
  ⟨text.takeWhile isBlank, fun _ hc => List.mem_takeWhile_imp hc,
    (List.takeWhile_append_dropWhile (p := isBlank) (l := text)).symm⟩

/-- Trimming takes away the blanks around a text and nothing else. -/
lemma trim_append_of_boundary {front text back : List Char} (hne : text ≠ [])
    (hfront : ∀ c ∈ front, isBlank c = true) (hback : ∀ c ∈ back, isBlank c = true)
    (hhead : ∀ c ∈ text.head?, isBlank c = false)
    (hlast : ∀ c ∈ text.getLast?, isBlank c = false) : trim (front ++ (text ++ back)) = text := by
  have hstart : skipBlanks (front ++ (text ++ back)) = text ++ back := by
    apply skipBlanks_append_of_boundary hfront
    rw [List.head?_append_of_ne_nil _ hne]
    exact hhead
  rw [trim, hstart, dropTrailingBlanks, List.reverse_append, skipBlanks_append_of_boundary,
    List.reverse_reverse]
  · exact fun c hc => hback c (List.mem_reverse.mp hc)
  · rw [List.head?_reverse]
    exact hlast

/-- A text without blanks is trimmed out of the blanks around it. -/
lemma trim_append_of_not_isBlank {front text back : List Char} (hne : text ≠ [])
    (hfront : ∀ c ∈ front, isBlank c = true) (hback : ∀ c ∈ back, isBlank c = true)
    (htext : ∀ c ∈ text, isBlank c = false) : trim (front ++ (text ++ back)) = text :=
  trim_append_of_boundary hne hfront hback (fun c hc => htext c (List.mem_of_mem_head? hc))
    fun c hc => htext c (List.mem_of_getLast? hc)

end Elementwise.Text
