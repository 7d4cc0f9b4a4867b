import Elementwise.Proofs.Kernel.Key

/-!
# Collisions of keys

In a key not-a-number and the infinities share one mark. Beside that a key tells everything that a
map kernel is made from, whatever its texts are: keys collide on components of the workgroup size
that are not finite, and nowhere else.
-/

namespace Elementwise

/-! ### Numbers with one mark -/

namespace Number

/-- Whether the number is neither not-a-number nor an infinity. -/
def isFinite : Number → Bool
  | .nan => false
  | .infinity _ => false
  | .negZero => true
  | .finite _ => true

/-- Equality of numbers once all that are not finite are identified. -/
def Alike (a b : Number) : Prop := a = b ∨ (a.isFinite = false ∧ b.isFinite = false)

lemma keyText_of_isFinite_eq_false {a : Number} (h : a.isFinite = false) : a.keyText = "null" := by
  cases a with
  | nan => rfl
  | infinity negative => rfl
  | negZero => cases h
  | finite q => cases h

/-- The shared mark is no integer. -/
lemma IsSafe.keyText_ne {a : Number} (h : a.IsSafe) : a.keyText ≠ "null" := by
  obtain ⟨n, hn, rfl⟩ := h
  intro hkey
  have htext : (ofInt n).chars = "null".toList := by
    rw [← String.ofList_inj, String.ofList_toList]
    exact hkey
  have hread := ofIntegerStart_chars ⟨n, hn, rfl⟩
  have hnone : ofIntegerStart "null".toList = .nan := rfl
  rw [htext, hnone] at hread
  cases hread

/-- Safe integers and the numbers that are not finite have one form in a key exactly when they are
alike. -/
lemma keyText_eq_iff_alike {a b : Number} (ha : a.IsSafe ∨ a.isFinite = false)
    (hb : b.IsSafe ∨ b.isFinite = false) : a.keyText = b.keyText ↔ a.Alike b := by
  constructor
  · intro h
    rcases ha with ha | ha
    · rcases hb with hb | hb
      · exact Or.inl (keyText_injective_of_isSafe ha hb h)
      · exact absurd (h.trans (keyText_of_isFinite_eq_false hb)) ha.keyText_ne
    · rcases hb with hb | hb
      · exact absurd (h.symm.trans (keyText_of_isFinite_eq_false ha)) hb.keyText_ne
      · exact Or.inr ⟨ha, hb⟩
  · rintro (rfl | ⟨ha, hb⟩)
    · rfl
    · rw [keyText_of_isFinite_eq_false ha, keyText_of_isFinite_eq_false hb]

end Number

lemma Extent.toList_injective {a b : Extent} (h : a.toList = b.toList) : a = b := by
  cases a
  cases b
  simpa [toList] using h

/-! ### Requests -/

/-- A request for a map kernel, with choices that may be left out. -/
structure KernelRequest where
  input : String
  output : String
  function : String
  choices : KernelOptions.Choices

namespace KernelRequest

/-- What the kernel is made from once the defaults are filled in. -/
def recipe (request : KernelRequest) : Recipe :=
  ⟨request.input, request.output, request.function, request.choices.complete⟩

def workgroupSize (request : KernelRequest) : Extent := request.recipe.options.workgroupSize

/-- The version is a safe integer, and the components of the workgroup size are safe integers or not
finite. -/
structure Keyed (request : KernelRequest) : Prop where
  workgroupSize : ∀ a ∈ request.workgroupSize.toList, a.IsSafe ∨ a.isFinite = false
  version : request.recipe.options.layout.version.IsSafe

end KernelRequest

namespace Recipe

/-- Two recipes have the same parts, the components of the workgroup sizes being compared up to
those that are not finite. -/
structure Alike (r s : Recipe) : Prop where
  function : r.function = s.function
  input : r.input = s.input
  output : r.output = s.output
  workgroupSize : List.Forall₂ Number.Alike r.options.workgroupSize.toList
    s.options.workgroupSize.toList
  structName : r.options.layout.structName = s.options.layout.structName
  fieldName : r.options.layout.fieldName = s.options.layout.fieldName
  elementType : r.options.layout.elementType = s.options.layout.elementType
  version : r.options.layout.version = s.options.layout.version
  entryPoint : r.options.entryPoint = s.options.entryPoint

/-- Alike recipes that are not the same differ in components that are not finite. -/
lemma Alike.exists_of_not_same {r s : Recipe} (h : r.Alike s) (hsame : ¬ r.Same s) :
    ∃ pair ∈ r.options.workgroupSize.toList.zip s.options.workgroupSize.toList,
      pair.1 ≠ pair.2 ∧ pair.1.isFinite = false ∧ pair.2.isFinite = false := by
  by_contra hnone
  obtain ⟨hlength, halike⟩ := List.forall₂_iff_zip.mp h.workgroupSize
  have hequal : List.Forall₂ Eq r.options.workgroupSize.toList s.options.workgroupSize.toList := by
    refine List.forall₂_iff_zip.mpr ⟨hlength, fun {a b} hmem => ?_⟩
    rcases halike hmem with heq | hmarks
    · exact heq
    · by_contra hne
      exact hnone ⟨(a, b), hmem, hne, hmarks⟩
  rw [List.forall₂_eq_eq_eq] at hequal
  exact hsame ⟨h.function, h.input, h.output, Extent.toList_injective hequal, h.structName,
    h.fieldName, h.elementType, h.version, h.entryPoint⟩

end Recipe

namespace KernelRequest

variable {first second : KernelRequest}

/-- The components of two workgroup sizes have the same forms in a key exactly when they are
alike. -/
lemma Keyed.keyTexts_eq_iff (hfirst : first.Keyed) (hsecond : second.Keyed) :
    first.workgroupSize.toList.map Number.keyText =
        second.workgroupSize.toList.map Number.keyText ↔
      List.Forall₂ Number.Alike first.workgroupSize.toList second.workgroupSize.toList := by
  obtain ⟨hfirst, -⟩ := hfirst
  obtain ⟨hsecond, -⟩ := hsecond
  simp only [Extent.toList, List.forall_mem_cons] at hfirst hsecond
  obtain ⟨hx, hy, hz, -⟩ := hfirst
  obtain ⟨hx', hy', hz', -⟩ := hsecond
  simp only [Extent.toList, List.map_cons, List.map_nil, List.cons.injEq, List.forall₂_cons,
    Number.keyText_eq_iff_alike hx hx', Number.keyText_eq_iff_alike hy hy',
    Number.keyText_eq_iff_alike hz hz', List.forall₂_nil_left_iff]

end KernelRequest

/-- Two requests have one key exactly when their texts and versions are equal and their workgroup
sizes are equal up to components that are not finite. So the keys of requests for different kernels
collide on such components and nowhere else. -/
theorem key_eq_iff_alike {first second : KernelRequest} (hfirst : first.Keyed)
    (hsecond : second.Keyed) :
    (first.recipe.key = second.recipe.key ↔ first.recipe.Alike second.recipe) ∧
      (first.recipe.key = second.recipe.key ∧ ¬ first.recipe.Same second.recipe ↔
        first.recipe.Alike second.recipe ∧
          ∃ pair ∈ first.workgroupSize.toList.zip second.workgroupSize.toList,
            pair.1 ≠ pair.2 ∧ pair.1.isFinite = false ∧ pair.2.isFinite = false) := by
  have hsizes := hfirst.keyTexts_eq_iff hsecond
  have hkey : first.recipe.key = second.recipe.key ↔ first.recipe.Alike second.recipe := by
    constructor
    · intro h
      obtain ⟨⟨hfunction, hinput, houtput⟩, hsize, ⟨hstruct, hfield, helement⟩, hversion, hentry⟩ :=
        Recipe.key_inj h
      exact ⟨hfunction, hinput, houtput, hsizes.mp hsize, hstruct, hfield, helement,
        Number.keyText_injective_of_isSafe hfirst.version hsecond.version hversion, hentry⟩
    · intro h
      have hsize := hsizes.mpr h.workgroupSize
      simp only [KernelRequest.workgroupSize] at hsize
      simp only [Recipe.key, Kernel.key, h.function, h.input, h.output, hsize, h.structName,
        h.fieldName, h.elementType, h.version, h.entryPoint]
  refine ⟨hkey, ?_⟩
  rw [hkey]
  constructor
  · rintro ⟨halike, hsame⟩
    exact ⟨halike, halike.exists_of_not_same hsame⟩
  · -- recipes with the same parts have no two different components at one position
    rintro ⟨halike, ⟨a, b⟩, hmem, hne, _⟩
    refine ⟨halike, fun hsame => hne ?_⟩
    rw [KernelRequest.workgroupSize, KernelRequest.workgroupSize, hsame.workgroupSize] at hmem
    have hdiagonal : List.Forall₂ Eq second.recipe.options.workgroupSize.toList
        second.recipe.options.workgroupSize.toList := List.forall₂_same.mpr fun _ _ => rfl
    exact (List.forall₂_iff_zip.mp hdiagonal).2 hmem

/-- A request with a name that looks like the fields of a key, and any first component. -/
def fieldRequest (input : String) (x : Number) : KernelRequest where
  input := input
  output := "y\"],\\u0000"
  function := "abs"
  choices := { workgroupSize := some ⟨x, 1, 1⟩ }

lemma fieldRequest_keyed (input : String) {x : Number} (h : x.IsSafe ∨ x.isFinite = false) :
    (fieldRequest input x).Keyed := by
  have hone : Number.IsSafe 1 := ⟨1, by decide, rfl⟩
  refine ⟨?_, hone⟩
  have hsize : (fieldRequest input x).workgroupSize.toList = [x, 1, 1] := rfl
  rw [hsize]
  simp only [List.forall_mem_cons]
  exact ⟨h, Or.inl hone, Or.inl hone, by simp⟩

/-- Not-a-number and an infinity collide, a name with a quote in it collides with nothing. -/
theorem key_eq_iff_alike_fieldRequest :
    ((fieldRequest "x\",\"y" .nan).Keyed ∧ (fieldRequest "x\",\"y" (.infinity true)).Keyed ∧
        (fieldRequest "x" .nan).Keyed) ∧
      (fieldRequest "x\",\"y" .nan).recipe.key =
        (fieldRequest "x\",\"y" (.infinity true)).recipe.key ∧
      (fieldRequest "x\",\"y" .nan).recipe.key ≠ (fieldRequest "x" .nan).recipe.key := by
  have hnan : ∀ input, (fieldRequest input .nan).Keyed :=
    fun input => fieldRequest_keyed input (Or.inr rfl)
  have hinfinity := fieldRequest_keyed "x\",\"y" (x := .infinity true) (Or.inr rfl)
  refine ⟨⟨hnan _, hinfinity, hnan _⟩, ?_, ?_⟩
  · refine (key_eq_iff_alike (hnan _) hinfinity).1.mpr ⟨rfl, rfl, rfl, ?_, rfl, rfl, rfl, rfl, rfl⟩
    exact .cons (Or.inr ⟨rfl, rfl⟩) (.cons (Or.inl rfl) (.cons (Or.inl rfl) .nil))
  · intro h
    have hinput := ((key_eq_iff_alike (hnan _) (hnan _)).1.mp h).input
    exact absurd hinput (by decide)

end Elementwise
