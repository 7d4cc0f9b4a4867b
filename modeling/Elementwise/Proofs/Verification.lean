import Elementwise.Proofs.Kernel.RoundTrip
import Elementwise.Verification

/-!
# Verified kernels

A generated kernel has no problems exactly when the four texts substituted for names are names.
One direction needs nothing about the text: whatever is read in it is a name, and a signature
without problems states only what was read. The other direction is the round trip of generated
kernels.
-/

namespace Elementwise

open Scan Text Inspection

/-! ### Whatever is read is a name -/

lemma isName_of_mem_bindings {code : String} {b : StorageBinding}
    (h : b ∈ (inspect code).bindings) : isName b.name.toList = true := by
  obtain ⟨_, _, _, hread⟩ := exists_read_of_mem_allFrom h
  exact isName_of_binding? hread

lemma isName_of_mem_entryPoints {code : String} {e : EntryPoint}
    (h : e ∈ (inspect code).entryPoints) : isName e.name.toList = true := by
  obtain ⟨_, _, _, hread⟩ := exists_read_of_mem_allFrom h
  exact isName_of_entryPoint? hread

lemma isName_of_mem_calls {code name : String} (h : name ∈ (inspect code).calls) :
    isName name.toList = true := by
  obtain ⟨_, _, _, hread⟩ := exists_read_of_mem_allFrom h
  obtain ⟨_, _, _, hname, _⟩ := call?_eq_some_iff.mp hread
  exact hname

/-! ### Signatures without problems -/

namespace Signature

variable {signature : Signature} {bindings : List StorageBinding} {entryPoints : List EntryPoint}

lemma exists_mem_of_occupies {slot : Number} {mode : StorageMode} {name : String}
    (h : occupies bindings slot mode name = true) : ∃ b ∈ bindings, b.name = name := by
  simp only [occupies] at h
  split at h
  · rename_i b hfilter
    simp only [Bool.and_eq_true, beq_iff_eq] at h
    have hmem : b ∈ bindings.filter fun b => b.group.eqv 0 && b.slot.eqv slot := by
      rw [hfilter]
      exact List.mem_singleton_self b
    exact ⟨b, List.mem_of_mem_filter hmem, h.2⟩
  · cases h

lemma bindingProblems_eq_nil_iff :
    signature.bindingProblems bindings = [] ↔ bindings.length = 2 ∧
      occupies bindings 0 .read signature.input = true ∧
      occupies bindings 1 .readWrite signature.output = true := by
  simp [bindingProblems]

lemma entryPointProblems_eq_nil_iff :
    signature.entryPointProblems entryPoints = [] ↔
      ∃ size, entryPoints = [⟨signature.entryPoint, size⟩] ∧
        joinNumbers "," size.toList = joinNumbers "," signature.workgroupSize := by
  constructor
  · intro h
    simp only [entryPointProblems] at h
    split at h
    · rename_i entry
      simp only [List.append_eq_nil_iff, ite_eq_left_iff, List.cons_ne_nil, imp_false,
        not_not] at h
      exact ⟨entry.workgroupSize, by rw [← h.1], h.2⟩
    · cases h
  · rintro ⟨size, rfl, hsize⟩
    simp [entryPointProblems, hsize]

lemma callProblems_eq_nil_iff {calls : List String} :
    signature.callProblems calls = [] ↔ calls = [signature.function] := by
  simp [callProblems]

lemma problems_eq_nil_iff {found : Inspection} :
    signature.problems found = [] ↔ signature.bindingProblems found.bindings = [] ∧
      signature.entryPointProblems found.entryPoints = [] ∧
      signature.callProblems found.calls = [] := by
  simp [problems]

end Signature

/-- A text without problems bears its signature out, which then states names only. -/
lemma isName_of_verify_eq_nil {code : String} {signature : Signature}
    (h : verify code signature = []) :
    isName signature.input.toList = true ∧ isName signature.output.toList = true ∧
      isName signature.function.toList = true ∧ isName signature.entryPoint.toList = true := by
  obtain ⟨hbindings, hentry, hcalls⟩ := Signature.problems_eq_nil_iff.mp h
  obtain ⟨_, hinput, houtput⟩ := Signature.bindingProblems_eq_nil_iff.mp hbindings
  obtain ⟨size, hentry, _⟩ := Signature.entryPointProblems_eq_nil_iff.mp hentry
  rw [Signature.callProblems_eq_nil_iff] at hcalls
  refine ⟨?_, ?_, ?_, ?_⟩
  · obtain ⟨b, hb, hname⟩ := Signature.exists_mem_of_occupies hinput
    exact hname ▸ isName_of_mem_bindings hb
  · obtain ⟨b, hb, hname⟩ := Signature.exists_mem_of_occupies houtput
    exact hname ▸ isName_of_mem_bindings hb
  · exact isName_of_mem_calls (by rw [hcalls]; exact List.mem_singleton_self _)
  · have hmem : (⟨signature.entryPoint, size⟩ : EntryPoint) ∈ (inspect code).entryPoints := by
      rw [hentry]
      exact List.mem_singleton_self _
    exact isName_of_mem_entryPoints hmem

/-! ### Generated kernels -/

section

variable {input output function : String} {options : KernelOptions}

/-- The two buffers of a generated kernel occupy a slot each, the one without the other. -/
lemma Signature.occupies_generate (input output stated type : String) :
    occupies [⟨0, 0, .read, input, type⟩, ⟨0, 1, .readWrite, output, type⟩] 0 .read stated =
        (input == stated) ∧
      occupies [⟨0, 0, .read, input, type⟩, ⟨0, 1, .readWrite, output, type⟩] 1 .readWrite stated =
        (output == stated) := by
  have heqv : Number.eqv 0 0 = true ∧ Number.eqv 1 1 = true ∧ Number.eqv 0 1 = false ∧
      Number.eqv 1 0 = false := by decide
  simp [occupies, heqv]

/-- The problems of a kernel made from names under any signature. Each part of the signature is
compared with what was written for it and with nothing else. -/
lemma verify_code (names : Kernel.WellNamed input output function options)
    (signature : Signature) {size : Extent}
    (hsize : workgroupSize (joinNumbers ", " options.workgroupSize.toList).toList = size) :
    verify (Kernel.generate input output function options).code signature =
      (if input = signature.input then [] else [Problem.inputBinding signature.input]) ++
      (if output = signature.output then [] else [Problem.outputBinding signature.output]) ++
      (if options.entryPoint = signature.entryPoint then []
       else [Problem.entryPointName options.entryPoint signature.entryPoint]) ++
      (if joinNumbers "," size.toList = joinNumbers "," signature.workgroupSize then []
       else [Problem.workgroupSize size.toList signature.workgroupSize]) ++
      (if function = signature.function then []
       else [Problem.calledFunction signature.function [function]]) := by
  rw [verify, inspect_code names, hsize]
  simp [Signature.problems, Signature.bindingProblems, Signature.entryPointProblems,
    Signature.callProblems, Signature.occupies_generate]

/-- A kernel made from names is what it states as soon as its workgroup size is read back in the
form in which it was written. -/
lemma problems_generate_eq (names : Kernel.WellNamed input output function options) {size : Extent}
    (hsize : workgroupSize (joinNumbers ", " options.workgroupSize.toList).toList = size) :
    (Kernel.generate input output function options).problems =
      if joinNumbers "," size.toList = joinNumbers "," options.workgroupSize.toList then []
      else [.workgroupSize size.toList options.workgroupSize.toList] := by
  have hsignature : (Kernel.generate input output function options).signature =
      ⟨input, output, options.entryPoint, options.workgroupSize.toList, function⟩ := rfl
  rw [Kernel.problems, hsignature, verify_code names _ hsize]
  simp

/-- A kernel made from names and a safe workgroup size is what it states. -/
lemma problems_generate_of_wellNamed (names : Kernel.WellNamed input output function options)
    (size : options.workgroupSize.IsSafe) :
    (Kernel.generate input output function options).problems = [] := by
  rw [problems_generate_eq names (workgroupSize_of_isSafe size), if_pos rfl]

end

/-- Verification accepts a generated kernel exactly when no name injects text. -/
theorem problems_generate_eq_nil_iff {input output function : String} {options : KernelOptions}
    (layout : options.layout.Defined) (size : options.workgroupSize.IsSafe) :
    (Kernel.generate input output function options).problems = [] ↔
      isName input.toList = true ∧ isName output.toList = true ∧
        isName function.toList = true ∧ isName options.entryPoint.toList = true := by
  constructor
  · exact fun h => isName_of_verify_eq_nil h
  · rintro ⟨hinput, houtput, hfunction, hentry⟩
    exact problems_generate_of_wellNamed ⟨hinput, houtput, hfunction, hentry, layout.wellNamed⟩ size

theorem problems_generate_keywords :
    (keywordOptions.layout.Defined ∧ keywordOptions.workgroupSize.IsSafe) ∧
      (Kernel.generate "fn" "fn" "struct" keywordOptions).problems = [] ∧
      (Kernel.generate "fn" "b: T;\n@group(0) @binding(7) var<storage> c" "struct"
        keywordOptions).problems ≠ [] := by
  have hlayout : keywordOptions.layout.Defined := by
    refine ⟨keywordOptions.layout.propose.draft, LayoutDraft.define_eq_ok_iff.mpr ⟨?_, rfl⟩⟩
    exact LayoutProposal.check_propose_iff.mpr (by decide +kernel)
  refine ⟨⟨hlayout, keywordOptions_isSafe⟩, ?_, ?_⟩
  · exact (problems_generate_eq_nil_iff hlayout keywordOptions_isSafe).mpr (by decide)
  · exact fun h => absurd ((problems_generate_eq_nil_iff hlayout keywordOptions_isSafe).mp h)
      (by decide)

end Elementwise
