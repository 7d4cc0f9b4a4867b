import Elementwise.Kernel
import Elementwise.Proofs.Number.Printer
import Elementwise.Proofs.Text.Quoted

/-!
# Keys and recipes

A recipe holds all that a map kernel is made from. Its key is read from left to right: a quoted text
ends with its quote and a number before the next mark, so recipes with one key have the same parts,
and kernels with the same parts agree.
-/

namespace Elementwise

open Text

/-! ### The parts of a key -/

lemma quotedText_append_inj {s t : String} {x y : List Char}
    (h : (quotedText s).toList ++ x = (quotedText t).toList ++ y) : s = t ∧ x = y := by
  rw [quotedText, quotedText, String.toList_ofList, String.toList_ofList] at h
  obtain ⟨hst, hxy⟩ := Quoted.encode_append_inj h
  exact ⟨String.toList_inj.mp hst, hxy⟩

namespace Number

lemma isNumeralChar_of_mem_keyText {a : Number} {c : Char} (h : c ∈ a.keyText.toList) :
    isNumeralChar c = true := by
  have hnull : ∀ d ∈ "null".toList, isNumeralChar d = true := by decide
  have htext : c ∈ a.text.toList → isNumeralChar c = true := by
    intro hc
    rw [toList_text] at hc
    exact isNumeralChar_of_mem_chars hc
  cases a with
  | nan => exact hnull c h
  | infinity negative => exact hnull c h
  | negZero => exact htext h
  | finite q => exact htext h

/-- A number in a key ends before the next mark. -/
lemma keyText_append_inj {a b : Number} {mark : Char} {x y : List Char}
    (hmark : isNumeralChar mark = false)
    (h : a.keyText.toList ++ mark :: x = b.keyText.toList ++ mark :: y) :
    a.keyText = b.keyText ∧ x = y := by
  have hend : ∀ t : List Char, ∀ c ∈ (mark :: t).head?, isNumeralChar c = false := by simp [hmark]
  obtain ⟨hab, hxy⟩ := append_inj_of_boundary (fun c hc => isNumeralChar_of_mem_keyText hc)
    (hend x) (fun c hc => isNumeralChar_of_mem_keyText hc) (hend y) h
  exact ⟨String.toList_inj.mp hab, List.tail_eq_of_cons_eq hxy⟩

lemma keyText_injective_of_isSafe {a b : Number} (ha : a.IsSafe) (hb : b.IsSafe)
    (h : a.keyText = b.keyText) : a = b := by
  have htext : ∀ {c : Number}, c.IsSafe → c.keyText = c.text := by
    rintro c ⟨n, _, rfl⟩
    rfl
  rw [htext ha, htext hb] at h
  exact text_injective_of_isSafe ha hb h

end Number

lemma Extent.keyText_injective_of_isSafe {a b : Extent} (ha : a.IsSafe) (hb : b.IsSafe)
    (h : a.toList.map Number.keyText = b.toList.map Number.keyText) : a = b := by
  obtain ⟨hax, hay, haz⟩ := Extent.isSafe_iff.mp ha
  obtain ⟨hbx, hby, hbz⟩ := Extent.isSafe_iff.mp hb
  simp only [toList, List.map_cons, List.map_nil, List.cons.injEq, and_true] at h
  obtain ⟨hx, hy, hz⟩ := h
  rw [Extent.mk.injEq]
  exact ⟨Number.keyText_injective_of_isSafe hax hbx hx,
    Number.keyText_injective_of_isSafe hay hby hy, Number.keyText_injective_of_isSafe haz hbz hz⟩

/-! ### Recipes -/

/-- The numbers among the options are safe integers. -/
structure KernelOptions.IsSafe (options : KernelOptions) : Prop where
  workgroupSize : options.workgroupSize.IsSafe
  version : options.layout.version.IsSafe

/-- All that a map kernel is made from. -/
structure Recipe where
  input : String
  output : String
  function : String
  options : KernelOptions

namespace Recipe

def kernel (r : Recipe) : Kernel := .generate r.input r.output r.function r.options

def key (r : Recipe) : String := Kernel.key r.input r.output r.function r.options

/-- Two recipes have the same parts; what the layouts are annotated with plays no part. -/
structure Same (r s : Recipe) : Prop where
  function : r.function = s.function
  input : r.input = s.input
  output : r.output = s.output
  workgroupSize : r.options.workgroupSize = s.options.workgroupSize
  structName : r.options.layout.structName = s.options.layout.structName
  fieldName : r.options.layout.fieldName = s.options.layout.fieldName
  elementType : r.options.layout.elementType = s.options.layout.elementType
  version : r.options.layout.version = s.options.layout.version
  entryPoint : r.options.entryPoint = s.options.entryPoint

lemma toList_key (r : Recipe) :
    r.key.toList =
      "map:[".toList ++ ((quotedText r.function).toList ++ (',' :: ((quotedText r.input).toList ++
      (',' :: ((quotedText r.output).toList ++ (',' :: '[' ::
      (r.options.workgroupSize.x.keyText.toList ++ (',' ::
      (r.options.workgroupSize.y.keyText.toList ++ (',' ::
      (r.options.workgroupSize.z.keyText.toList ++ (']' :: ',' ::
      ((quotedText r.options.layout.structName).toList ++ (',' ::
      ((quotedText r.options.layout.fieldName).toList ++ (',' ::
      ((quotedText r.options.layout.elementType).toList ++ (',' ::
      (r.options.layout.version.keyText.toList ++ (',' ::
      ((quotedText r.options.entryPoint).toList ++ [']']))))))))))))))))))))) := by
  simp [key, Kernel.key, bracketed, Extent.toList]

/-- The parts of a recipe are read off its key one after the other. -/
lemma key_inj {r s : Recipe} (h : r.key = s.key) :
    (r.function = s.function ∧ r.input = s.input ∧ r.output = s.output) ∧
      r.options.workgroupSize.toList.map Number.keyText =
        s.options.workgroupSize.toList.map Number.keyText ∧
      (r.options.layout.structName = s.options.layout.structName ∧
        r.options.layout.fieldName = s.options.layout.fieldName ∧
        r.options.layout.elementType = s.options.layout.elementType) ∧
      r.options.layout.version.keyText = s.options.layout.version.keyText ∧
      r.options.entryPoint = s.options.entryPoint := by
  have h := congrArg String.toList h
  rw [toList_key, toList_key, List.append_cancel_left_eq] at h
  obtain ⟨hfunction, h⟩ := quotedText_append_inj h
  obtain ⟨hinput, h⟩ := quotedText_append_inj (List.tail_eq_of_cons_eq h)
  obtain ⟨houtput, h⟩ := quotedText_append_inj (List.tail_eq_of_cons_eq h)
  obtain ⟨hx, h⟩ := Number.keyText_append_inj (by decide)
    (List.tail_eq_of_cons_eq (List.tail_eq_of_cons_eq h))
  obtain ⟨hy, h⟩ := Number.keyText_append_inj (by decide) h
  obtain ⟨hz, h⟩ := Number.keyText_append_inj (by decide) h
  obtain ⟨hstruct, h⟩ := quotedText_append_inj (List.tail_eq_of_cons_eq h)
  obtain ⟨hfield, h⟩ := quotedText_append_inj (List.tail_eq_of_cons_eq h)
  obtain ⟨helement, h⟩ := quotedText_append_inj (List.tail_eq_of_cons_eq h)
  obtain ⟨hversion, h⟩ := Number.keyText_append_inj (by decide) (List.tail_eq_of_cons_eq h)
  obtain ⟨hentry, _⟩ := quotedText_append_inj h
  exact ⟨⟨hfunction, hinput, houtput⟩, by simp [Extent.toList, hx, hy, hz],
    ⟨hstruct, hfield, helement⟩, hversion, hentry⟩

lemma Same.key {r s : Recipe} (h : r.Same s) : r.key = s.key := by
  simp only [Recipe.key, Kernel.key, h.function, h.input, h.output, h.workgroupSize, h.structName,
    h.fieldName, h.elementType, h.version, h.entryPoint]

/-- Safe recipes have one key exactly when they have the same parts. -/
lemma key_eq_iff_same {r s : Recipe} (hr : r.options.IsSafe) (hs : s.options.IsSafe) :
    r.key = s.key ↔ r.Same s := by
  constructor
  · intro h
    obtain ⟨⟨hfunction, hinput, houtput⟩, hsize, ⟨hstruct, hfield, helement⟩, hversion, hentry⟩ :=
      key_inj h
    exact ⟨hfunction, hinput, houtput,
      Extent.keyText_injective_of_isSafe hr.workgroupSize hs.workgroupSize hsize, hstruct, hfield,
      helement, Number.keyText_injective_of_isSafe hr.version hs.version hversion, hentry⟩
  · exact Same.key

end Recipe

/-! ### Agreement of kernels -/

/-- Two kernels agree in their text and in all that it was made from. -/
structure Kernel.Agrees (a b : Kernel) : Prop where
  code : a.code = b.code
  entryPoint : a.entryPoint = b.entryPoint
  workgroupSize : a.workgroupSize = b.workgroupSize
  bindings : a.bindings = b.bindings
  function : a.function = b.function
  version : a.layout.version = b.layout.version
  structName : a.layout.structName = b.layout.structName
  fieldName : a.layout.fieldName = b.layout.fieldName
  elementType : a.layout.elementType = b.layout.elementType

/-- The kernels of recipes with the same parts agree. -/
lemma Recipe.Same.agrees {r s : Recipe} (h : r.Same s) : r.kernel.Agrees s.kernel where
  code := by
    simp only [Recipe.kernel, Kernel.generate, Kernel.lines, Layout.structLines, h.function,
      h.input, h.output, h.workgroupSize, h.structName, h.fieldName, h.elementType, h.entryPoint]
  entryPoint := h.entryPoint
  workgroupSize := h.workgroupSize
  bindings := by
    simp only [Recipe.kernel, Kernel.generate, Kernel.bindings, Kernel.inputBinding,
      Kernel.outputBinding, h.input, h.output]
  function := h.function
  version := h.version
  structName := h.structName
  fieldName := h.fieldName
  elementType := h.elementType

end Elementwise
