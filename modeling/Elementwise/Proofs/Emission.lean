import Elementwise.Emission
import Elementwise.Proofs.Logging
import Elementwise.Proofs.Path
import Elementwise.Proofs.Settings
import Elementwise.Proofs.Verification.Differences

/-!
# Emitted kernels

The emitted kernels differ in the function they call only, so that for one workgroup size either all
of them are verified and written, or none is. They are verified exactly when each component is
written like the integer that is read from its text. For dimensions this means that they are below
`10 ^ 21`: from there on numbers are written with an exponent, of which an integer that is read
stops short.
-/

namespace Elementwise

open Inspection

/-- Whether all components are below `10 ^ 21`, from where on integers are written with an
exponent. -/
def Extent.IsPositional (size : Extent) : Prop :=
  ∀ a ∈ size.toList, a.lt (Number.ofInt (10 ^ 21)) = true

instance Extent.decidableIsPositional (size : Extent) : Decidable size.IsPositional :=
  inferInstanceAs (Decidable (∀ a ∈ size.toList, a.lt (Number.ofInt (10 ^ 21)) = true))

/-- Whether all components are written like the integers that are read from their texts. -/
def Extent.ReadsBack (size : Extent) : Prop :=
  ∀ a ∈ size.toList, (Number.ofIntegerStart a.text.toList).text = a.text

instance Extent.decidableReadsBack (size : Extent) : Decidable size.ReadsBack :=
  inferInstanceAs (Decidable (∀ a ∈ size.toList, _))

/-- Of the dimensions those below `10 ^ 21` are read back in the form in which they were written. -/
lemma Extent.IsDimensions.readsBack_iff {size : Extent} (h : size.IsDimensions) :
    size.ReadsBack ↔ size.IsPositional := by
  apply forall₂_congr
  intro a ha
  rw [Number.toList_text]
  exact (h a ha).text_ofIntegerStart_iff

namespace Emission

variable {directory op : String} {size : Extent}

/-! ### The kernels -/

lemma kernel_wellNamed (size : Extent) (hop : op ∈ mapOperatorNames) :
    Kernel.WellNamed "input_0" "output_0" (shaderFunction op) { workgroupSize := size } := by
  have hfunctions : ∀ op ∈ mapOperatorNames, Text.isName (shaderFunction op).toList = true := by
    decide +kernel
  have hlayout : Layout.WellNamed {} :=
    ⟨by decide, by decide, ⟨4, by decide, "f32", by decide, by decide⟩⟩
  have hmain : Text.isName "main".toList = true := by decide
  exact ⟨by decide, by decide, hfunctions op hop, hmain, hlayout⟩

/-- The kernel of an operator is verified exactly when its workgroup size is read back in the form
in which it was written. -/
lemma problems_kernel_eq_nil_iff (size : Extent) (hop : op ∈ mapOperatorNames) :
    (kernel op size).problems = [] ↔ size.ReadsBack := by
  rw [kernel, problems_generate_eq (kernel_wellNamed size hop) (workgroupSize_joinNumbers size),
    ite_eq_left_iff, Extent.joinNumbers_eq_iff]
  simp [Extent.ReadsBack, Extent.toList, Number.toList_text]

/-- The workgroup size of a verified kernel is read back from its text. -/
lemma entryPoints_kernel (hop : op ∈ mapOperatorNames) (hsize : size.IsDimensions)
    (hpositional : size.IsPositional) :
    (inspect (kernel op size).code).entryPoints = [⟨"main", size⟩] := by
  have hsame : ∀ a ∈ size.toList, Number.ofIntegerStart a.chars = a := fun a ha =>
    (hsize a ha).ofIntegerStart_chars (hpositional a ha)
  simp only [Extent.toList, List.forall_mem_cons] at hsame
  rw [kernel, inspect_code (kernel_wellNamed size hop), workgroupSize_joinNumbers, hsame.1,
    hsame.2.1, hsame.2.2.1]

/-- The arguments of the attribute stand in the text of a kernel. -/
lemma attribute_isInfix_code (op : String) (size : Extent) :
    ("@workgroup_size(" ++ joinNumbers ", " size.toList ++ ")").toList <:+:
      (kernel op size).code.toList := by
  have hsuffix : ("@workgroup_size(" ++ joinNumbers ", " size.toList ++ ")").toList <:+
      (Kernel.attributeLine size).toList := by
    refine ⟨"@compute ".toList, ?_⟩
    simp [Kernel.toList_attributeLine]
  apply hsuffix.isInfix.trans
  rw [kernel, Kernel.code_generate]
  exact Scan.isInfix_textOf (by simp)

/-! ### Paths -/

lemma nodup_filePath (directory : String) : (mapOperatorNames.map (filePath directory)).Nodup := by
  have hfunctions : (mapOperatorNames.map fun op => shaderFunction op ++ ".wgsl").Nodup := by
    decide +kernel
  have hnames : ∀ file ∈ mapOperatorNames.map (fun op => shaderFunction op ++ ".wgsl"),
      Path.IsFileName file := by
    decide +kernel
  have hmap : mapOperatorNames.map (filePath directory) =
      (mapOperatorNames.map fun op => shaderFunction op ++ ".wgsl").map (Path.join directory) := by
    rw [List.map_map]
    rfl
  rw [hmap]
  apply hfunctions.map_on
  intro file hfile other hother heq
  exact Path.join_injective (hnames file hfile) (hnames other hother) heq

/-! ### Steps and runs -/

/-- A verified kernel is written. -/
lemma addOperator_of_verified (emission : Emission) (h : (kernel op size).problems = []) :
    addOperator directory size emission op =
      { files := emission.files.insert (filePath directory op) (kernel op size).code
        written := emission.written ++ [filePath directory op]
        failed := emission.failed
        journal := emission.journal.record
          (logger.say .info (op ++ " -> " ++ filePath directory op)) } := by
  delta addOperator
  generalize kernel op size = k at h ⊢
  dsimp only
  rw [h]

def report (size : Extent) (op : String) : Event :=
  logger.say .error (op ++ ": " ++ "; ".intercalate ((kernel op size).problems.map Problem.message))

/-- A kernel with problems is reported, and the files stay as they were. -/
lemma addOperator_of_refused (emission : Emission) (h : (kernel op size).problems ≠ []) :
    addOperator directory size emission op =
      { emission with
        failed := emission.failed ++ [op]
        journal := emission.journal.record (report size op) } := by
  delta addOperator report
  generalize kernel op size = k at h ⊢
  dsimp only
  cases hproblems : k.problems with
  | nil => exact absurd hproblems h
  | cons problem problems => rfl

/-- The files after the kernels of some operators were written. -/
def writeKernels (directory : String) (size : Extent) (files : Files) (ops : List String) : Files :=
  ops.foldl (fun files op => files.insert (filePath directory op) (kernel op size).code) files

@[simp] lemma writeKernels_nil (files : Files) : writeKernels directory size files [] = files := rfl

@[simp] lemma writeKernels_cons (files : Files) (op : String) (ops : List String) :
    writeKernels directory size files (op :: ops) =
      writeKernels directory size
        (files.insert (filePath directory op) (kernel op size).code) ops := rfl

lemma foldl_addOperator_of_verified {ops : List String} (emission : Emission)
    (h : ∀ op ∈ ops, (kernel op size).problems = []) :
    ops.foldl (addOperator directory size) emission =
      { files := writeKernels directory size emission.files ops
        written := emission.written ++ ops.map (filePath directory)
        failed := emission.failed
        journal := emission.journal.recordAll
          (ops.map fun op => logger.say .info (op ++ " -> " ++ filePath directory op)) } := by
  induction ops generalizing emission with
  | nil => simp
  | cons op ops ih =>
    rw [List.forall_mem_cons] at h
    rw [List.foldl_cons, addOperator_of_verified emission h.1, ih _ h.2]
    simp

lemma foldl_addOperator_of_refused {ops : List String} (emission : Emission)
    (h : ∀ op ∈ ops, (kernel op size).problems ≠ []) :
    ops.foldl (addOperator directory size) emission =
      { emission with
        failed := emission.failed ++ ops
        journal := emission.journal.recordAll (ops.map (report size)) } := by
  induction ops generalizing emission with
  | nil => simp
  | cons op ops ih =>
    rw [List.forall_mem_cons] at h
    rw [List.foldl_cons, addOperator_of_refused emission h.1, ih _ h.2]
    simp

/-- With a workgroup size that is read back in the form in which it was written, all kernels are
written. -/
lemma emitKernels_of_readsBack (log : LogSettings) (files : Files) (hdirectory : directory ≠ "")
    (hsize : size.ReadsBack) :
    emitKernels log directory size files = .ok
      { files := writeKernels directory size files mapOperatorNames
        written := mapOperatorNames.map (filePath directory)
        failed := []
        journal := Journal.recordAll { settings := log } (mapOperatorNames.map fun op =>
          logger.say .info (op ++ " -> " ++ filePath directory op)) } := by
  have hverified : ∀ op ∈ mapOperatorNames, (kernel op size).problems = [] :=
    fun op hop => (problems_kernel_eq_nil_iff size hop).mpr hsize
  rw [emitKernels, if_neg (by simpa using hdirectory), foldl_addOperator_of_verified _ hverified]
  simp only [List.nil_append]

/-- With any other workgroup size, no kernel is written. -/
lemma emitKernels_of_not_readsBack (log : LogSettings) (files : Files)
    (hdirectory : directory ≠ "") (hsize : ¬ size.ReadsBack) :
    emitKernels log directory size files = .ok
      { files
        written := []
        failed := mapOperatorNames
        journal :=
          Journal.recordAll { settings := log } (mapOperatorNames.map (report size)) } := by
  have hrefused : ∀ op ∈ mapOperatorNames, (kernel op size).problems ≠ [] :=
    fun op hop => mt (problems_kernel_eq_nil_iff size hop).mp hsize
  rw [emitKernels, if_neg (by simpa using hdirectory), foldl_addOperator_of_refused _ hrefused]
  simp only [List.nil_append]

/-! ### The files left -/

lemma find?_writeKernels_of_notMem {path : String} {ops : List String} (files : Files)
    (h : path ∉ ops.map (filePath directory)) :
    (writeKernels directory size files ops).find? path = files.find? path := by
  induction ops generalizing files with
  | nil => rfl
  | cons op ops ih =>
    rw [List.map_cons, List.mem_cons, not_or] at h
    rw [writeKernels_cons, ih _ h.2, Table.find?_insert, if_neg h.1]

/-- Each operator with a path of its own has its kernel there. -/
lemma find?_writeKernels {ops : List String} (files : Files)
    (hnodup : (ops.map (filePath directory)).Nodup) (hop : op ∈ ops) :
    (writeKernels directory size files ops).find? (filePath directory op) =
      some (kernel op size).code := by
  induction ops generalizing files with
  | nil => cases hop
  | cons first ops ih =>
    rw [List.map_cons, List.nodup_cons] at hnodup
    rw [writeKernels_cons]
    rcases List.mem_cons.mp hop with rfl | hop
    · rw [find?_writeKernels_of_notMem _ hnodup.1, Table.find?_insert_self]
    · exact ih _ hnodup.2 hop

end Emission

end Elementwise
