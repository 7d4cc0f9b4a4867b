import Elementwise.Proofs.Number.Written
import Elementwise.Proofs.Verification

/-!
# The differences that verification reports

A kernel text may be verified under any signature. It is then compared part by part, and the
problems are exactly the parts in which the signature differs from what the text was made of. Lists
of numbers are compared by their texts, which comes to comparing the numbers.
-/

namespace Elementwise

open Inspection

/-! ### Joined numbers -/

lemma toList_joinNumbers_comma (numbers : List Number) :
    (joinNumbers "," numbers).toList = [','].intercalate (numbers.map Number.chars) := by
  simp [joinNumbers, Number.text, Function.comp_def]

lemma splitOn_joinNumbers {numbers : List Number} (h : numbers ≠ []) :
    (joinNumbers "," numbers).toList.splitOn ',' = numbers.map Number.chars := by
  have hcomma : ∀ text ∈ numbers.map Number.chars, ',' ∉ text := by
    intro text htext hmem
    obtain ⟨a, _, rfl⟩ := List.mem_map.mp htext
    exact absurd (Number.isNumeralChar_of_mem_chars hmem) (by decide)
  rw [toList_joinNumbers_comma, List.splitOn_intercalate ',' hcomma (by simpa using h)]

/-- An extent is written like no list of another length. -/
lemma Extent.joinNumbers_eq_iff {size : Extent} {numbers : List Number} :
    joinNumbers "," size.toList = joinNumbers "," numbers ↔
      size.toList.map Number.text = numbers.map Number.text := by
  have htext : ∀ list : List Number,
      list.map Number.text = (list.map Number.chars).map String.ofList := by
    intro list
    rw [List.map_map]
    rfl
  constructor
  · intro h
    have hsize := splitOn_joinNumbers (show size.toList ≠ [] by simp [Extent.toList])
    cases numbers with
    | nil =>
      -- the text of no numbers has no comma, where that of an extent has two
      rw [h] at hsize
      simp [joinNumbers, Extent.toList] at hsize
    | cons a rest =>
      rw [h, splitOn_joinNumbers (by simp)] at hsize
      rw [htext, htext, hsize]
  · intro h
    rw [joinNumbers, joinNumbers, h]

/-- Safe numbers are written like the integers that are equal to them one by one. -/
lemma map_text_eq_iff {safe integers : List Number} (hsafe : ∀ a ∈ safe, a.IsSafe)
    (hintegers : ∀ b ∈ integers, b.isInteger = true) :
    safe.map Number.text = integers.map Number.text ↔
      List.Forall₂ (fun a b => a.eqv b = true) safe integers := by
  induction safe generalizing integers with
  | nil => cases integers <;> simp
  | cons a safe ih =>
    cases integers with
    | nil => simp
    | cons b integers =>
      rw [List.forall_mem_cons] at hsafe hintegers
      rw [List.map_cons, List.map_cons, List.cons.injEq, List.forall₂_cons,
        Number.text_eq_text_iff hsafe.1 hintegers.1, ih hsafe.2 hintegers.2]

/-! ### The problems under any signature -/

/-- The text of a kernel, verified under a signature of any origin, has one problem for each part of
the signature that differs from what the kernel was made of, in the order of the parts. -/
theorem verify_generate_differences {input output function : String} {options : KernelOptions}
    (names : Kernel.WellNamed input output function options)
    (size : options.workgroupSize.IsSafe) (signature : Signature)
    (integers : ∀ a ∈ signature.workgroupSize, a.isInteger = true) :
    verify (Kernel.generate input output function options).code signature =
        (if input = signature.input then [] else [Problem.inputBinding signature.input]) ++
        (if output = signature.output then [] else [Problem.outputBinding signature.output]) ++
        (if options.entryPoint = signature.entryPoint then []
         else [Problem.entryPointName options.entryPoint signature.entryPoint]) ++
        (if List.Forall₂ (fun a b => a.eqv b = true) options.workgroupSize.toList
            signature.workgroupSize then []
         else [Problem.workgroupSize options.workgroupSize.toList signature.workgroupSize]) ++
        (if function = signature.function then []
         else [Problem.calledFunction signature.function [function]]) ∧
      (verify (Kernel.generate input output function options).code signature = [] ↔
        input = signature.input ∧ output = signature.output ∧
          options.entryPoint = signature.entryPoint ∧
          List.Forall₂ (fun a b => a.eqv b = true) options.workgroupSize.toList
            signature.workgroupSize ∧
          function = signature.function) := by
  have hnumbers : joinNumbers "," options.workgroupSize.toList =
      joinNumbers "," signature.workgroupSize ↔
        List.Forall₂ (fun a b => a.eqv b = true) options.workgroupSize.toList
          signature.workgroupSize :=
    Extent.joinNumbers_eq_iff.trans (map_text_eq_iff size integers)
  have hverify := verify_code names signature (workgroupSize_of_isSafe size)
  simp only [hnumbers] at hverify
  refine ⟨hverify, ?_⟩
  rw [hverify]
  simp only [List.append_eq_nil_iff, ite_eq_left_iff, List.cons_ne_nil, imp_false, not_not,
    and_assoc]

/-- A signature with two other names than the kernel of keywords, and with the other zero. -/
def tamperedSignature : Signature where
  input := "fn"
  output := "output 0"
  entryPoint := "main"
  workgroupSize := [Number.ofInt (-1), .negZero, 9007199254740991]
  function := "struct"

theorem verify_generate_differences_tampered :
    (Kernel.WellNamed "fn" "fn" "struct" keywordOptions ∧ keywordOptions.workgroupSize.IsSafe ∧
        ∀ a ∈ tamperedSignature.workgroupSize, a.isInteger = true) ∧
      verify (Kernel.generate "fn" "fn" "struct" keywordOptions).code tamperedSignature =
        [.outputBinding "output 0", .entryPointName "fn" "main"] := by
  have hnames : Kernel.WellNamed "fn" "fn" "struct" keywordOptions :=
    ⟨by decide, by decide, by decide, by decide, by decide, by decide,
      ⟨3, by decide, "i32", by decide, by decide⟩⟩
  have hintegers : ∀ a ∈ tamperedSignature.workgroupSize, a.isInteger = true := by decide
  refine ⟨⟨hnames, keywordOptions_isSafe, hintegers⟩, ?_⟩
  rw [(verify_generate_differences hnames keywordOptions_isSafe tamperedSignature hintegers).1]
  decide +kernel

end Elementwise
