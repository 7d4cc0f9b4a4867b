import Elementwise.Proofs.Layout
import Elementwise.Proofs.Number.Order
import Elementwise.Proofs.Session

/-!
# How compilations end

A node is refused for an unknown shape, a missing template or a missing name, in this order, and a
refusal leaves no trace. A node that is not refused gets its kernel from the cache, where the kernel
stays, and only then do its options show whether there is a dispatch: the elements have to be
vectors, and workgroups have to be counted by a positive integer.
-/

namespace Elementwise

open Build

/-! ### Faults of options -/

def vectorTypes : List String := [2, 3, 4].flatMap fun lanes => scalarTypes.map (vectorType lanes)

/-- Why options leave a kernel without a dispatch, if they do. -/
def KernelOptions.fault? (options : KernelOptions) : Option Failure :=
  if options.layout.elementType ∉ vectorTypes then
    some (.layout (.elementType options.layout.elementType))
  else if options.workgroupSize.x.isPositiveInteger = false then
    some (.divisor options.workgroupSize.x)
  else none

lemma mem_vectorTypes_iff {elementType : String} :
    elementType ∈ vectorTypes ↔ (vectorLanes? elementType).isSome = true := by
  rw [vectorLanes?_isSome_iff, vectorTypes]
  simp [eq_comm]

example : vectorTypes = ["vec2<f32>", "vec2<i32>", "vec2<u32>", "vec3<f32>", "vec3<i32>",
    "vec3<u32>", "vec4<f32>", "vec4<i32>", "vec4<u32>"] := by decide

/-- The workgroups counted for an output of the given length, if the options are without fault. -/
def KernelOptions.workgroups (options : KernelOptions) (length : Number) : Number :=
  let lanes := Number.ofInt ((vectorLanes? options.layout.elementType).getD 0)
  ((length / lanes).floor / options.workgroupSize.x).ceil

lemma KernelOptions.fault?_eq_none_iff {options : KernelOptions} :
    options.fault? = none ↔ options.layout.elementType ∈ vectorTypes ∧
      options.workgroupSize.x.isPositiveInteger = true := by
  simp [fault?, ite_eq_iff]

/-- Options without fault give a dispatch along the first dimension. -/
lemma dispatchFor_eq (options : KernelOptions) (length : Number) :
    dispatchFor length options =
      match options.fault? with
      | some failure => .error failure
      | none => .ok ⟨options.workgroups length, 1, 1⟩ := by
  rw [KernelOptions.fault?, KernelOptions.workgroups, dispatchFor, vectorLanes]
  cases hlanes : vectorLanes? options.layout.elementType with
  | none =>
    rw [if_pos (by simp [mem_vectorTypes_iff, hlanes])]
    rfl
  | some lanes =>
    rw [if_neg (by simp [mem_vectorTypes_iff, hlanes]), Number.isPositiveInteger_eq]
    cases hdivisor : options.workgroupSize.x.isInteger && !options.workgroupSize.x.le 0 with
    | false => simp [mapDispatch, ceilDiv, hdivisor, bind, Except.bind]
    | true => simp [mapDispatch, ceilDiv, hdivisor, bind, Except.bind, pure, Except.pure]

/-- Whether there is a dispatch depends on the options alone. -/
lemma dispatchFor_of_fault (options : KernelOptions) (length : Number) :
    match options.fault? with
    | some failure => dispatchFor length options = .error failure
    | none => ∃ dispatch, dispatchFor length options = .ok dispatch := by
  rw [dispatchFor_eq]
  cases options.fault? with
  | some failure => rfl
  | none => exact ⟨_, rfl⟩

/-! ### The outcome of a compilation -/

namespace BuildState

variable {s : BuildState} {key : String} (kernel : Kernel)

lemma cache_provide_of_contains (h : s.cache.contains key = true) :
    (s.provide key kernel).cache = s.cache := by
  obtain ⟨artifact, hfind⟩ := Option.isSome_iff_exists.mp h
  rw [provide, hfind]

lemma entries_provide_of_not_contains (h : s.cache.contains key = false) :
    (s.provide key kernel).cache.entries =
      s.cache.entries ++ [(key, ⟨s.nextSerial, kernel⟩)] := by
  rw [Table.contains_eq_false_iff] at h
  rw [provide, h]
  exact Table.entries_insert_of_find?_eq_none h

end BuildState

/-- In a session, a node that is not refused has its kernel provided and ends as its dispatch
does. -/
lemma Session.build_compile_of_not_refused {τ : Type} (session : Session) {node : Node}
    {lower : τ → Template} {registry : Registry τ} {shapes : ShapeTable}
    (hlower : ∀ template, registry.find? node.op = some template → lower template = lowerMap)
    (h : node.refusal? registry shapes = none) (options : KernelOptions) :
    ∃ r length artifact, node.recipe? options = some r ∧
      (session.build (node.compile lower registry shapes options)).result =
        (dispatchFor length options).map (⟨artifact, ·⟩) ∧
      (session.build (node.compile lower registry shapes options)).session.cache =
        (session.start.provide r.key r.kernel).cache := by
  obtain ⟨r, dims, hr, _, hexec⟩ := exec_compile_of_not_refused hlower h options session.start
  refine ⟨r, elementCount dims, session.start.provided r.key r.kernel, hr, ?_, ?_⟩
  · simp only [Session.build_eq, hexec]
  · simp only [Session.build_eq, hexec]

/-- How a compilation with the map template ends and what it leaves in the cache. The first reason
to refuse the node is reported, and then nothing has happened. Otherwise the cache has the kernel of
the node afterwards, as its only new entry if it was not there before, even if a fault of the
options is reported. -/
theorem build_compile_outcome {τ : Type} (session : Session) (node : Node) (lower : τ → Template)
    (registry : Registry τ) (shapes : ShapeTable) (choices : KernelOptions.Choices)
    (map : ∀ template, registry.find? node.op = some template → lower template = lowerMap) :
    let options := choices.complete
    let step := session.build (node.compile lower registry shapes options)
    (∀ failure, node.refusal? registry shapes = some failure →
        step = ⟨.error failure, [], session⟩) ∧
      (node.refusal? registry shapes = none →
        ∃ r, node.recipe? options = some r ∧
          (∀ failure, options.fault? = some failure → step.result = .error failure) ∧
          (options.fault? = none → ∃ compiled, step.result = .ok compiled) ∧
          (session.cache.contains r.key = true → step.session.cache = session.cache) ∧
          (session.cache.contains r.key = false → ∃ artifact, artifact.kernel = r.kernel ∧
            step.session.cache.entries = session.cache.entries ++ [(r.key, artifact)])) := by
  intro options step
  constructor
  · intro failure hrefusal
    exact Session.build_of_exec_eq (exec_compile_of_refusal map hrefusal)
  · intro hrefusal
    obtain ⟨r, length, artifact, hr, hresult, hcache⟩ :=
      session.build_compile_of_not_refused map hrefusal options
    have hdispatch := dispatchFor_of_fault options length
    refine ⟨r, hr, ?_, ?_, ?_, ?_⟩
    · intro failure hfault
      rw [hfault] at hdispatch
      rw [hresult, hdispatch]
      rfl
    · intro hfault
      rw [hfault] at hdispatch
      obtain ⟨dispatch, hdispatch⟩ := hdispatch
      rw [hresult, hdispatch]
      exact ⟨_, rfl⟩
    · -- the cache has been asked for the kernel even if a fault is reported afterwards
      intro hcontains
      rw [hcache]
      exact BuildState.cache_provide_of_contains r.kernel hcontains
    · intro habsent
      rw [hcache]
      exact ⟨⟨session.nextSerial, r.kernel⟩, rfl,
        BuildState.entries_provide_of_not_contains r.kernel habsent⟩

/-- Options that neither have vectors nor count workgroups. -/
def faultyChoices : KernelOptions.Choices where
  workgroupSize := some ⟨0, 1, 1⟩
  layout := some { elementType := "vec5<f32>" }

def absRegistry : Registry Unit := (∅ : Registry Unit).insert "Abs" ()

def pairShapes : ShapeTable := .ofEntries [("x", some [8]), ("y", some [8])]

/-- The first node lacks a shape, a template and an input, and the shape is reported. The second one
is not refused, and its kernel is cached when the first fault of its options is reported. -/
theorem build_compile_outcome_faulty :
    let lower : Unit → Template := fun _ => lowerMap
    let refused := Session.build {} (Node.compile ⟨"Sin", [], ["y", "z"], none⟩ lower absRegistry
      pairShapes faultyChoices.complete)
    let step := Session.build {} (Node.compile ⟨"Abs", ["x"], ["y"], none⟩ lower absRegistry
      pairShapes faultyChoices.complete)
    refused = ⟨.error (.shapeNotFound "z"), [], {}⟩ ∧
      step.result = .error (.layout (.elementType "vec5<f32>")) ∧
      step.session.cache.keys =
        [Kernel.key "x" "y" "abs" faultyChoices.complete] := by
  intro lower refused step
  have hrefused := build_compile_outcome {} ⟨"Sin", [], ["y", "z"], none⟩ lower absRegistry
    pairShapes faultyChoices fun _ _ => rfl
  have hstep := build_compile_outcome {} ⟨"Abs", ["x"], ["y"], none⟩ lower absRegistry
    pairShapes faultyChoices fun _ _ => rfl
  obtain ⟨r, hr, hfault, _, _, hnew⟩ := hstep.2 (by decide +kernel)
  cases hr
  obtain ⟨artifact, _, hentries⟩ := hnew rfl
  refine ⟨hrefused.1 _ (by decide +kernel), hfault _ (by decide +kernel), ?_⟩
  rw [Table.keys, hentries]
  rfl

end Elementwise
