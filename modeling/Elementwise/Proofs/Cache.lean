import Elementwise.Proofs.Build
import Elementwise.Proofs.Kernel.Key

/-!
# Invariants of the cache

A cache is faithful when every kernel in it was generated for its own key, and numbered when
different keys hold kernels with different numbers. Providing a kernel keeps both, and keeps every
kernel that is cached already.
-/

namespace Elementwise

/-- Every cached kernel is that of a recipe with safe options whose key it is cached under. -/
def Cache.Faithful (cache : Cache) : Prop :=
  ∀ key artifact, cache.find? key = some artifact →
    ∃ r : Recipe, r.options.IsSafe ∧ r.key = key ∧ artifact.kernel = r.kernel

/-- The kernels under different keys have different numbers, all below `next`. -/
structure Cache.Numbered (cache : Cache) (next : Nat) : Prop where
  lt : ∀ {key artifact}, cache.find? key = some artifact → artifact.serial < next
  inj : ∀ {key key' artifact artifact'}, cache.find? key = some artifact →
    cache.find? key' = some artifact' → artifact.serial = artifact'.serial → key = key'

lemma Cache.faithful_empty : Cache.Faithful ∅ := by
  intro key artifact h
  cases h

lemma Cache.numbered_empty (next : Nat) : Cache.Numbered ∅ next where
  lt := by
    intro key artifact h
    cases h
  inj := by
    intro key key' artifact artifact' h
    cases h

namespace BuildState

variable {s : BuildState} {r : Recipe}

/-- The kernel asked for is in the cache afterwards. -/
lemma find?_provide_self (key : String) (kernel : Kernel) :
    (s.provide key kernel).cache.find? key = some (s.provided key kernel) := by
  rw [provide, provided]
  cases h : s.cache.find? key with
  | some artifact => exact h
  | none => simp

/-- What is cached under a key stays there when kernels are provided. -/
lemma find?_provide_of_find? {key key' : String} {kernel : Kernel} {artifact : Artifact}
    (h : s.cache.find? key' = some artifact) :
    (s.provide key kernel).cache.find? key' = some artifact := by
  rw [provide]
  cases hkey : s.cache.find? key with
  | some _ => exact h
  | none =>
    have hne : key' ≠ key := by
      rintro rfl
      rw [hkey] at h
      cases h
    rw [Table.find?_insert, if_neg hne, h]

lemma faithful_provide (hcache : s.cache.Faithful) (hr : r.options.IsSafe) :
    (s.provide r.key r.kernel).cache.Faithful := by
  rw [provide]
  cases h : s.cache.find? r.key with
  | some _ => exact hcache
  | none =>
    intro key artifact hfind
    rw [Table.find?_insert] at hfind
    split at hfind
    · rename_i hkey
      cases hfind
      exact ⟨r, hr, hkey.symm, rfl⟩
    · exact hcache key artifact hfind

lemma numbered_provide (hcache : s.cache.Numbered s.nextSerial) (key : String) (kernel : Kernel) :
    (s.provide key kernel).cache.Numbered (s.provide key kernel).nextSerial := by
  rw [provide]
  cases h : s.cache.find? key with
  | some _ => exact hcache
  | none =>
    constructor
    · intro other artifact hfind
      rw [Table.find?_insert] at hfind
      split at hfind
      · cases hfind
        exact Nat.lt_succ_self _
      · exact Nat.lt_succ_of_lt (hcache.lt hfind)
    · -- a new number is above all those that were given out before
      intro first second artifact artifact' hfirst hsecond hserial
      rw [Table.find?_insert] at hfirst hsecond
      split at hfirst <;> split at hsecond
      · simp_all
      · cases hfirst
        exact absurd hserial (hcache.lt hsecond).ne'
      · cases hsecond
        exact absurd hserial (hcache.lt hfirst).ne
      · exact hcache.inj hfirst hsecond hserial

/-- In a faithful cache the kernel provided for a recipe is as if it were new. -/
lemma agrees_provided (hcache : s.cache.Faithful) (hr : r.options.IsSafe) :
    (s.provided r.key r.kernel).kernel.Agrees r.kernel := by
  rw [provided]
  cases h : s.cache.find? r.key with
  | some artifact =>
    obtain ⟨r', hr', hkey, hkernel⟩ := hcache r.key artifact h
    rw [Option.getD_some, hkernel]
    exact ((Recipe.key_eq_iff_same hr' hr).mp hkey).agrees
  | none => exact ⟨rfl, rfl, rfl, rfl, rfl, rfl, rfl, rfl, rfl⟩

end BuildState

end Elementwise
