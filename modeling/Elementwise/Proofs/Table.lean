import Elementwise.Table
import Mathlib.Data.List.Perm.Subperm

/-!
# Tables that grow

A key that is not in a table goes to the end of it. One table extends another when it has all the
values of the other under the same keys; it is then not smaller.
-/

namespace Elementwise.Table

variable {α : Type} {t u v : Table α} {key : String} {a : α}

lemma contains_eq_false_iff : t.contains key = false ↔ t.find? key = none := by
  simp [contains]

/-- The keys are the texts that have a value. -/
lemma mem_keys_iff : key ∈ t.keys ↔ t.contains key = true := by
  simp [keys, contains, find?]

/-- A new key goes to the end of the table. -/
lemma entries_insert_of_find?_eq_none (h : t.find? key = none) :
    (t.insert key a).entries = t.entries ++ [(key, a)] := by
  simp only [find?, insert] at h ⊢
  revert h
  induction t.entries with
  | nil => exact fun _ => rfl
  | cons e rest ih =>
    intro h
    rw [lookup_entry] at h
    split at h
    · cases h
    · rename_i hne
      simp only [putEntry, if_neg (Ne.symm hne), List.cons_append, ih h]

/-! ### Extension -/

/-- The second table has all values of the first one. -/
def Extends (t u : Table α) : Prop := ∀ key a, t.find? key = some a → u.find? key = some a

lemma Extends.refl (t : Table α) : t.Extends t := fun _ _ h => h

lemma Extends.trans (h : t.Extends u) (h' : u.Extends v) : t.Extends v :=
  fun key a hfind => h' key a (h key a hfind)

/-- An extension may give any value to a key that had none. -/
lemma Extends.insert (h : t.Extends u) (hkey : t.find? key = none) :
    t.Extends (u.insert key a) := by
  intro other b hfind
  have hne : other ≠ key := by
    rintro rfl
    rw [hkey] at hfind
    cases hfind
  rw [find?_insert, if_neg hne, h other b hfind]

lemma Extends.size_le (h : t.Extends u) : t.size ≤ u.size := by
  rw [size_eq_length_keys, size_eq_length_keys]
  have hsubset : t.keys ⊆ u.keys := by
    intro key hkey
    rw [mem_keys_iff, contains, Option.isSome_iff_exists] at hkey ⊢
    obtain ⟨a, ha⟩ := hkey
    exact ⟨a, h key a ha⟩
  exact (t.nodup.subperm hsubset).length_le

end Elementwise.Table
