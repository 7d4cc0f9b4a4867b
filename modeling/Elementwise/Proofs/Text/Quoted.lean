import Elementwise.Text
import Mathlib.Tactic

/-!
# Reading quoted text

An escaped character can be read back whatever follows it, and no escaped form starts with a quote.
So a quoted text ends where its reader says, and different texts have different quoted forms even
when more text follows them.
-/

namespace Elementwise.Text.Quoted

def digitValue (c : Char) : Nat := "0123456789abcdef".toList.idxOf c

/-- The character whose escaped form starts the text, and the text after it. -/
def unescape? : List Char → Option (Char × List Char)
  | '\\' :: 'u' :: '0' :: '0' :: high :: low :: rest =>
    some (Char.ofNat (16 * digitValue high + digitValue low), rest)
  | '\\' :: 'b' :: rest => some ('\x08', rest)
  | '\\' :: 't' :: rest => some ('\t', rest)
  | '\\' :: 'n' :: rest => some ('\n', rest)
  | '\\' :: 'f' :: rest => some ('\x0c', rest)
  | '\\' :: 'r' :: rest => some ('\r', rest)
  | '\\' :: c :: rest => some (c, rest)
  | '"' :: _ => none
  | c :: rest => some (c, rest)
  | [] => none

lemma digitValue_digitChar {d : Nat} (h : d < 16) : digitValue (Nat.digitChar d) = d := by
  have hall : ∀ d < 16, digitValue (Nat.digitChar d) = d := by decide
  exact hall d h

lemma unescape?_escape (c : Char) (rest : List Char) :
    unescape? (escape c ++ rest) = some (c, rest) := by
  simp only [escape, beq_iff_eq]
  split_ifs with h₁ h₂ h₃ h₄ h₅ h₆ h₇ h₈
  · simp [unescape?, h₁]
  · simp [unescape?, h₂]
  · simp [unescape?, h₃]
  · simp [unescape?, h₄]
  · simp [unescape?, h₅]
  · simp [unescape?, h₆]
  · simp [unescape?, h₇]
  · have hhigh : digitValue (Nat.digitChar (c.toNat / 16)) = c.toNat / 16 :=
      digitValue_digitChar (by omega)
    have hlow : digitValue (Nat.digitChar (c.toNat % 16)) = c.toNat % 16 :=
      digitValue_digitChar (by omega)
    simp [unescape?, hhigh, hlow, Nat.div_add_mod]
  · simp [unescape?, h₂]

/-- A list of escaped characters is determined by its text up to the closing quote. -/
lemma flatMap_escape_inj {s t x y : List Char}
    (h : s.flatMap escape ++ '"' :: x = t.flatMap escape ++ '"' :: y) : s = t ∧ x = y := by
  induction s generalizing t with
  | nil =>
    cases t with
    | nil => simpa using h
    | cons d t =>
      -- no escaped character starts with a quote
      have hread := unescape?_escape d (t.flatMap escape ++ '"' :: y)
      rw [← List.append_assoc, ← List.flatMap_cons, ← h] at hread
      cases hread
  | cons c s ih =>
    have hread := unescape?_escape c (s.flatMap escape ++ '"' :: x)
    rw [← List.append_assoc, ← List.flatMap_cons, h] at hread
    cases t with
    | nil => cases hread
    | cons d t =>
      rw [List.flatMap_cons, List.append_assoc, unescape?_escape, Option.some.injEq,
        Prod.mk.injEq] at hread
      obtain ⟨rfl, hrest⟩ := hread
      obtain ⟨rfl, rfl⟩ := ih hrest.symm
      exact ⟨rfl, rfl⟩

lemma encode_append_inj {s t x y : List Char} (h : encode s ++ x = encode t ++ y) :
    s = t ∧ x = y := by
  apply flatMap_escape_inj
  simpa [encode] using h

end Elementwise.Text.Quoted
