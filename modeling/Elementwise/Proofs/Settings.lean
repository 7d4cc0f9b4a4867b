import Elementwise.Proofs.Number.Numeral
import Elementwise.Settings

/-!
# Accepted settings

A workgroup size that the settings accept has positive binary64 integers as its dimensions, however
they were written.
-/

namespace Elementwise

def Extent.IsDimensions (size : Extent) : Prop := ∀ a ∈ size.toList, a.IsDimension

lemma Extent.isDimensions_unit : Extent.unit.IsDimensions := by
  intro a ha
  simp only [Extent.unit, Extent.toList, List.mem_cons, List.not_mem_nil, or_false, or_self] at ha
  rw [ha]
  exact Number.isDimension_one

namespace Settings

/-- One to three positive integers are accepted, and missing ones are 1. -/
lemma workgroupSizeOf_eq_ok {written : String} {sizes : List Number} (hne : written ≠ "")
    (hsizes : (written.toList.splitOn ',').map (fun part => Number.ofNumeral (Text.trim part)) =
      sizes) (hlength : sizes.length ≤ 3) (hpositive : ∀ a ∈ sizes, a.isPositiveInteger = true) :
    workgroupSizeOf written =
      .ok (some ⟨sizes[0]?.getD 1, sizes[1]?.getD 1, sizes[2]?.getD 1⟩) := by
  have hany : sizes.any (fun size => !size.isPositiveInteger) = false := by
    simpa using hpositive
  simp [workgroupSizeOf, hne, hsizes, hany, hlength]

/-- The sizes that are written are dimensions, and those that are left out are 1. -/
lemma isDimensions_of_workgroupSizeOf {written : String} {size : Extent}
    (h : workgroupSizeOf written = .ok (some size)) : size.IsDimensions := by
  simp only [workgroupSizeOf] at h
  -- an empty text gives no size, too many sizes and a size that is not positive are refused
  split at h
  · simp at h
  split at h
  · cases h
  split at h
  · cases h
  rename_i hpositive
  generalize hsizes : (written.toList.splitOn ',').map
    (fun part => Number.ofNumeral (Text.trim part)) = sizes at h hpositive
  have hmem : ∀ a ∈ sizes, a.IsDimension := by
    intro a ha
    have hbinary : a.IsBinary64 := by
      rw [← hsizes] at ha
      obtain ⟨part, _, rfl⟩ := List.mem_map.mp ha
      exact Number.isBinary64_ofNumeral _
    apply Number.isDimension_of_isPositiveInteger hbinary
    by_contra hnot
    exact hpositive (List.any_eq_true.mpr ⟨a, ha, by simpa using hnot⟩)
  have hget : ∀ i : Nat, (sizes[i]?.getD 1).IsDimension := by
    intro i
    cases hi : sizes[i]? with
    | none => exact Number.isDimension_one
    | some a => exact hmem a (List.mem_of_getElem? hi)
  rw [Except.ok.injEq, Option.some.injEq] at h
  rw [← h]
  intro a ha
  simp only [Extent.toList, List.mem_cons, List.not_mem_nil, or_false] at ha
  rcases ha with rfl | rfl | rfl
  · exact hget 0
  · exact hget 1
  · exact hget 2

/-- Without an explicit choice the workgroup size consists of dimensions. -/
lemma isDimensions_of_resolve {choices : Choices} {env : Environment} {settings : Settings}
    (hchoice : choices.workgroupSize = none) (h : resolve choices env = .ok settings) :
    settings.workgroupSize.IsDimensions := by
  rw [resolve, hchoice] at h
  cases hread : environmentWorkgroupSize env with
  | error failure =>
    rw [hread] at h
    cases h
  | ok size =>
    rw [hread] at h
    have hsettings : settings.workgroupSize = size.getD Extent.unit :=
      congrArg Settings.workgroupSize (Except.ok.inj h).symm
    rw [hsettings]
    cases size with
    | none => exact Extent.isDimensions_unit
    | some size =>
      -- it was read from the environment, where there is nothing else to read it from
      rw [environmentWorkgroupSize] at hread
      split at hread
      · exact isDimensions_of_workgroupSizeOf hread
      · cases hread

end Settings

end Elementwise
