import Elementwise.Proofs.Kernel.Key
import Elementwise.Proofs.Kernel.RoundTrip

/-!
# What the text of a kernel tells

The text of a kernel made from names tells all that the kernel was made from, the version of the
layout apart. The declarations are read back by inspection, which does not look at the members of
the struct; the field and the type of its elements are read off the head of the text. So the key of
a kernel and its text tell the same apart from the version.
-/

namespace Elementwise

open Text Inspection

/-! ### Where names and types end -/

/-- A name ends before the next mark. -/
lemma name_append_inj {name name' : String} {mark : Char} {x y : List Char}
    (hname : isName name.toList = true) (hname' : isName name'.toList = true)
    (hmark : isWordChar mark = false)
    (h : name.toList ++ mark :: x = name'.toList ++ mark :: y) : name = name' ∧ x = y := by
  have hend : ∀ t : List Char, ∀ c ∈ (mark :: t).head?, isWordChar c = false := by simp [hmark]
  obtain ⟨hfirst, hsecond⟩ := append_inj_of_boundary (isWordChar_of_mem_isName hname) (hend x)
    (isWordChar_of_mem_isName hname') (hend y) h
  exact ⟨String.toList_inj.mp hfirst, List.tail_eq_of_cons_eq hsecond⟩

/-- The type of the elements of an array ends before the comma, which occurs in no type. -/
lemma elementType_append_inj {layout layout' : Layout} {x y : List Char}
    (hlayout : layout.WellNamed) (hlayout' : layout'.WellNamed)
    (h : layout.elementType.toList ++ '>' :: ',' :: x =
      layout'.elementType.toList ++ '>' :: ',' :: y) :
    layout.elementType = layout'.elementType := by
  have htype : ∀ {l : Layout}, l.WellNamed →
      ∀ c ∈ l.elementType.toList ++ ['>'], (c != ',') = true := by
    intro l hl c hc
    rw [bne_iff_ne]
    rintro rfl
    rcases List.mem_append.mp hc with hc | hc
    · exact hl.not_mem_elementType (by decide) hc
    · exact absurd hc (by decide)
  rw [List.append_cons, List.append_cons layout'.elementType.toList] at h
  obtain ⟨hboth, _⟩ := append_inj_of_boundary (htype hlayout) (by simp) (htype hlayout') (by simp) h
  exact String.toList_inj.mp (List.append_cancel_right hboth)

/-! ### Recipes and texts -/

namespace Recipe

variable {r s : Recipe}

/-- The parts of a recipe have the form they need in a text and in a key. -/
structure WellFormed (r : Recipe) : Prop where
  names : Kernel.WellNamed r.input r.output r.function r.options
  safe : r.options.IsSafe

/-- Two recipes have the same parts, the versions of their layouts apart. -/
structure SameText (r s : Recipe) : Prop where
  function : r.function = s.function
  input : r.input = s.input
  output : r.output = s.output
  workgroupSize : r.options.workgroupSize = s.options.workgroupSize
  structName : r.options.layout.structName = s.options.layout.structName
  fieldName : r.options.layout.fieldName = s.options.layout.fieldName
  elementType : r.options.layout.elementType = s.options.layout.elementType
  entryPoint : r.options.entryPoint = s.options.entryPoint

lemma same_iff_sameText_and_version :
    r.Same s ↔ r.SameText s ∧ r.options.layout.version = s.options.layout.version := by
  constructor
  · intro h
    exact ⟨⟨h.function, h.input, h.output, h.workgroupSize, h.structName, h.fieldName,
      h.elementType, h.entryPoint⟩, h.version⟩
  · rintro ⟨h, hversion⟩
    exact ⟨h.function, h.input, h.output, h.workgroupSize, h.structName, h.fieldName,
      h.elementType, hversion, h.entryPoint⟩

lemma SameText.code_eq (h : r.SameText s) : r.kernel.code = s.kernel.code := by
  simp only [kernel, Kernel.generate, Kernel.lines, Layout.structLines, h.function, h.input,
    h.output, h.workgroupSize, h.structName, h.fieldName, h.elementType, h.entryPoint]

/-- A text starts with the declaration of the struct and goes on behind the type of its field. -/
lemma exists_toList_code (r : Recipe) : ∃ rest, r.kernel.code.toList =
    "struct ".toList ++ (r.options.layout.structName.toList ++ (' ' :: ("\x7b\n    ".toList ++
      (r.options.layout.fieldName.toList ++ (':' :: (" array<".toList ++
        (r.options.layout.elementType.toList ++ '>' :: ',' :: rest))))))) := by
  simp [kernel, Kernel.code_generate, Layout.structLines]

/-- The members of the struct are read off the head of the text one after the other. -/
lemma WellFormed.layout_of_code_eq (hr : r.WellFormed) (hs : s.WellFormed)
    (h : r.kernel.code = s.kernel.code) :
    r.options.layout.structName = s.options.layout.structName ∧
      r.options.layout.fieldName = s.options.layout.fieldName ∧
      r.options.layout.elementType = s.options.layout.elementType := by
  have hr := hr.names.layout
  have hs := hs.names.layout
  obtain ⟨rest, hrest⟩ := exists_toList_code r
  obtain ⟨rest', hrest'⟩ := exists_toList_code s
  rw [h, hrest', List.append_cancel_left_eq] at hrest
  obtain ⟨hstruct, hrest⟩ := name_append_inj hs.structName hr.structName (by decide) hrest
  rw [List.append_cancel_left_eq] at hrest
  obtain ⟨hfield, hrest⟩ := name_append_inj hs.fieldName hr.fieldName (by decide) hrest
  rw [List.append_cancel_left_eq] at hrest
  have helement := elementType_append_inj hs hr hrest
  exact ⟨hstruct.symm, hfield.symm, helement.symm⟩

/-- Texts of well-formed recipes are equal exactly when the recipes have the same parts, the
versions apart. -/
lemma WellFormed.code_eq_iff_sameText (hr : r.WellFormed) (hs : s.WellFormed) :
    r.kernel.code = s.kernel.code ↔ r.SameText s := by
  refine ⟨fun h => ?_, SameText.code_eq⟩
  obtain ⟨hstruct, hfield, helement⟩ := hr.layout_of_code_eq hs h
  have hfound := congrArg inspect h
  rw [kernel, kernel, inspect_code hr.names, inspect_code hs.names,
    workgroupSize_of_isSafe hr.safe.workgroupSize,
    workgroupSize_of_isSafe hs.safe.workgroupSize] at hfound
  simp only [Inspection.mk.injEq, List.cons.injEq, StorageBinding.mk.injEq, EntryPoint.mk.injEq,
    and_true, true_and] at hfound
  obtain ⟨_, ⟨⟨hinput, _⟩, houtput, _⟩, ⟨hentry, hsize⟩, hfunction⟩ := hfound
  exact ⟨hfunction, hinput, houtput, hsize, hstruct, hfield, helement, hentry⟩

end Recipe

/-- Key and text agree: two kernels have one key exactly when they have one text and layouts of one
version, and the text tells all parts of the recipe beside the version. -/
theorem key_eq_iff_code_eq {r s : Recipe} (hr : r.WellFormed) (hs : s.WellFormed) :
    (r.key = s.key ↔ r.kernel.code = s.kernel.code ∧
        r.options.layout.version = s.options.layout.version) ∧
      (r.kernel.code = s.kernel.code ↔ r.SameText s) := by
  have hcode := hr.code_eq_iff_sameText hs
  refine ⟨?_, hcode⟩
  rw [Recipe.key_eq_iff_same hr.safe hs.safe, hcode]
  exact Recipe.same_iff_sameText_and_version

def keywordRecipe (version : Int) (fieldName : String) : Recipe where
  input := "fn"
  output := "fn"
  function := "struct"
  options := { keywordOptions with
    layout := { keywordOptions.layout with version := Number.ofInt version, fieldName } }

lemma keywordRecipe_wellFormed {version : Int} {fieldName : String}
    (hversion : version.natAbs ≤ 2 ^ 53 - 1) (hfield : isName fieldName.toList = true) :
    (keywordRecipe version fieldName).WellFormed := by
  have hfn : isName "fn".toList = true := by decide
  have hstruct : isName "struct".toList = true := by decide
  have helement : "vec3<i32>" = vectorType 3 "i32" := by decide
  exact ⟨⟨hfn, hfn, hstruct, hfn, hstruct, hfield, 3, by decide, "i32", by decide, helement⟩,
    keywordOptions_isSafe, version, hversion, rfl⟩

/-- The text does not tell the version, and the key does; a field is told by both. -/
theorem key_eq_iff_code_eq_keywords :
    ((keywordRecipe 7 "fn").WellFormed ∧ (keywordRecipe 8 "fn").WellFormed ∧
        (keywordRecipe 7 "var").WellFormed) ∧
      (keywordRecipe 7 "fn").kernel.code = (keywordRecipe 8 "fn").kernel.code ∧
      (keywordRecipe 7 "fn").key ≠ (keywordRecipe 8 "fn").key ∧
      (keywordRecipe 7 "fn").kernel.code ≠ (keywordRecipe 7 "var").kernel.code := by
  have hseven := keywordRecipe_wellFormed (show (7 : Int).natAbs ≤ 2 ^ 53 - 1 by decide)
    (show isName "fn".toList = true by decide)
  have height := keywordRecipe_wellFormed (show (8 : Int).natAbs ≤ 2 ^ 53 - 1 by decide)
    (show isName "fn".toList = true by decide)
  have hvar := keywordRecipe_wellFormed (show (7 : Int).natAbs ≤ 2 ^ 53 - 1 by decide)
    (show isName "var".toList = true by decide)
  obtain ⟨hkey, hcode⟩ := key_eq_iff_code_eq hseven height
  refine ⟨⟨hseven, height, hvar⟩, ?_, ?_, ?_⟩
  · exact hcode.mpr ⟨rfl, rfl, rfl, rfl, rfl, rfl, rfl, rfl⟩
  · intro h
    exact absurd (hkey.mp h).2 (by decide)
  · intro h
    have hfield := ((key_eq_iff_code_eq hseven hvar).2.mp h).fieldName
    exact absurd hfield (by decide)

end Elementwise
