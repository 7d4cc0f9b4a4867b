import Elementwise.Proofs.Emission

/-!
# All kernels or none

For a workgroup size of any three numbers, the emitter writes the kernels of all operators and
nothing else, or it writes no file and reports all operators. It writes none exactly when some
component is not written like the integer that is read from its text: a fraction, an infinity or an
integer with an exponent, but not the negative zero, and not-a-number neither.
-/

namespace Elementwise

namespace Emission

variable {directory : String} {size : Extent} {files : Files} {op : String × String}

/-! ### The table of operators -/

/-- The function of a built-in operator is the one its table gives. -/
lemma shaderFunction_fst (h : op ∈ mapOperators) : shaderFunction op.1 = op.2 := by
  have hall : ∀ op ∈ mapOperators, shaderFunction op.1 = op.2 := by
    decide +kernel
  exact hall op h

lemma filePath_fst (directory : String) (h : op ∈ mapOperators) :
    filePath directory op.1 = Path.join directory (op.2 ++ ".wgsl") := by
  rw [filePath, shaderFunction_fst h]

lemma kernel_fst (size : Extent) (h : op ∈ mapOperators) :
    kernel op.1 size = .generate "input_0" "output_0" op.2 { workgroupSize := size } := by
  rw [kernel, shaderFunction_fst h]

lemma map_filePath (directory : String) :
    mapOperatorNames.map (filePath directory) =
      mapOperators.map fun op => Path.join directory (op.2 ++ ".wgsl") := by
  rw [mapOperatorNames, List.map_map]
  exact List.map_congr_left fun op h => filePath_fst directory h

lemma isFileName_function (h : op ∈ mapOperators) : Path.IsFileName (op.2 ++ ".wgsl") := by
  have hall : ∀ op ∈ mapOperators, Path.IsFileName (op.2 ++ ".wgsl") := by
    decide +kernel
  exact hall op h

/-! ### The two outcomes -/

/-- All kernels are written: each operator has a file of its own in the directory, which holds its
kernel, and every other file is as it was before. -/
structure AllWritten (directory : String) (size : Extent) (files : Files) (emission : Emission) :
    Prop where
  failed : emission.failed = []
  written : emission.written = mapOperators.map fun op => Path.join directory (op.2 ++ ".wgsl")
  length : emission.written.length = 17
  normal : Path.IsNormal directory →
    emission.written = mapOperators.map fun op => directory ++ "/" ++ op.2 ++ ".wgsl"
  nodup : emission.written.Nodup
  located : ∀ op ∈ mapOperators, Path.join directory (op.2 ++ ".wgsl") =
    (if Path.isAbsolute directory then "/" else "") ++
      "/".intercalate (Path.segments directory ++ [op.2 ++ ".wgsl"])
  stored : ∀ op ∈ mapOperators,
    emission.files.find? (Path.join directory (op.2 ++ ".wgsl")) =
      some (Kernel.generate "input_0" "output_0" op.2 { workgroupSize := size }).code
  kept : ∀ path ∉ emission.written, emission.files.find? path = files.find? path

/-- No kernel is written: all operators are reported, and the files are as they were before. -/
structure NoneWritten (files : Files) (emission : Emission) : Prop where
  written : emission.written = []
  failed : emission.failed = mapOperators.map Prod.fst
  length : emission.failed.length = 17
  files : emission.files = files

/-- The two outcomes exclude each other. -/
lemma AllWritten.not_noneWritten {emission : Emission}
    (h : AllWritten directory size files emission) : ¬ NoneWritten files emission := by
  intro hnone
  have hlength := hnone.length
  rw [h.failed] at hlength
  cases hlength

lemma map_filePath_of_isNormal (hdirectory : Path.IsNormal directory) :
    mapOperatorNames.map (filePath directory) =
      mapOperators.map fun op => directory ++ "/" ++ op.2 ++ ".wgsl" := by
  rw [map_filePath]
  apply List.map_congr_left
  intro op hop
  rw [hdirectory.join_eq (isFileName_function hop), ← String.append_assoc]

lemma exists_allWritten (log : LogSettings) (files : Files) (hdirectory : directory ≠ "")
    (hsize : size.ReadsBack) :
    ∃ emission, emitKernels log directory size files = .ok emission ∧
      AllWritten directory size files emission := by
  refine ⟨_, emitKernels_of_readsBack log files hdirectory hsize, ?_⟩
  exact
    { failed := rfl
      written := map_filePath directory
      length := rfl
      normal := map_filePath_of_isNormal
      nodup := nodup_filePath directory
      located := fun op hop => Path.join_eq directory (isFileName_function hop)
      stored := by
        intro op hop
        rw [← filePath_fst directory hop, ← kernel_fst size hop]
        exact find?_writeKernels files (nodup_filePath directory) (List.mem_map_of_mem hop)
      kept := fun path hpath => find?_writeKernels_of_notMem files hpath }

lemma exists_noneWritten (log : LogSettings) (files : Files) (hdirectory : directory ≠ "")
    (hsize : ¬ size.ReadsBack) :
    ∃ emission, emitKernels log directory size files = .ok emission ∧ NoneWritten files emission :=
  ⟨_, emitKernels_of_not_readsBack log files hdirectory hsize, rfl, rfl, rfl, rfl⟩

end Emission

/-- Emission is uniform over the operators, whatever the numbers of the workgroup size are: all
kernels are written or none is, and none exactly when the integer read from the text of some
component has another text. -/
theorem emitKernels_all_or_none {directory : String} (hdirectory : directory ≠ "")
    (log : LogSettings) (size : Extent) (files : Files) :
    ∃ emission, emitKernels log directory size files = .ok emission ∧
      (emission.AllWritten directory size files ∨ emission.NoneWritten files) ∧
      (emission.NoneWritten files ↔
        ∃ c ∈ size.toList, (Number.ofIntegerStart c.text.toList).text ≠ c.text) := by
  have hsome : (∃ c ∈ size.toList, (Number.ofIntegerStart c.text.toList).text ≠ c.text) ↔
      ¬ size.ReadsBack := by
    simp [Extent.ReadsBack]
  rw [hsome]
  by_cases hsize : size.ReadsBack
  · obtain ⟨emission, hemit, hall⟩ := Emission.exists_allWritten log files hdirectory hsize
    exact ⟨emission, hemit, Or.inl hall,
      fun hnone => absurd hnone hall.not_noneWritten, fun hnot => absurd hsize hnot⟩
  · obtain ⟨emission, hemit, hnone⟩ := Emission.exists_noneWritten log files hdirectory hsize
    exact ⟨emission, hemit, Or.inr hnone, fun _ => hsize, fun _ => hnone⟩

def olderFiles : Files := (∅ : Files).insert "out/abs.wgsl" "struct"

/-- Not-a-number, the negative zero and a negative integer are emitted; a fraction is not. -/
theorem emitKernels_all_or_none_odd :
    "out" ≠ "" ∧
      (∃ emission, emitKernels {} "out" ⟨.nan, .negZero, Number.ofInt (-3)⟩ olderFiles =
          .ok emission ∧
        emission.AllWritten "out" ⟨.nan, .negZero, Number.ofInt (-3)⟩ olderFiles ∧
        emission.written.head? = some "out/abs.wgsl") ∧
      ∃ emission, emitKernels {} "out" ⟨.finite (1 / 2), 1, 1⟩ olderFiles = .ok emission ∧
        emission.NoneWritten olderFiles := by
  have hout : "out" ≠ "" := by decide
  refine ⟨hout, ?_, ?_⟩
  · have hread : Extent.ReadsBack ⟨.nan, .negZero, Number.ofInt (-3)⟩ := by
      decide +kernel
    obtain ⟨emission, hemit, hall | hnone, hiff⟩ :=
      emitKernels_all_or_none hout {} ⟨.nan, .negZero, Number.ofInt (-3)⟩ olderFiles
    · have hpath : emission.written.head? = some "out/abs.wgsl" := by
        rw [hall.normal (.relative (by decide))]
        rfl
      exact ⟨emission, hemit, hall, hpath⟩
    · obtain ⟨c, hc, hne⟩ := hiff.mp hnone
      exact absurd (hread c hc) hne
  · have hread : (Number.ofIntegerStart (Number.finite (1 / 2)).text.toList).text ≠
        (Number.finite (1 / 2)).text := by
      decide +kernel
    obtain ⟨emission, hemit, _, hiff⟩ :=
      emitKernels_all_or_none hout {} ⟨.finite (1 / 2), 1, 1⟩ olderFiles
    exact ⟨emission, hemit, hiff.mpr ⟨_, by simp [Extent.toList], hread⟩⟩

end Elementwise
