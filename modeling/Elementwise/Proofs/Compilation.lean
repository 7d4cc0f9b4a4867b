import Elementwise.Compilation
import Elementwise.Proofs.Build
import Elementwise.Proofs.Kernel.Key
import Elementwise.Proofs.Table

/-!
# What compiling a node does

A node is refused for an unknown shape, a missing template or a missing name, in this order, and
then nothing has happened. A node that gets as far as the cache asks it for the kernel of one
recipe, which is made from the first names of the node, its operator and the options. All else that
the map template and the compiler do concerns the dispatch and the journal.
-/

namespace Elementwise

open Build

/-! ### Recipes of nodes -/

def LoweringContext.recipe? (context : LoweringContext) (options : KernelOptions) : Option Recipe :=
  match context.inputs, context.outputs with
  | input :: _, output :: _ => some ⟨input, output, shaderFunction context.node.op, options⟩
  | _, _ => none

/-- The recipe of a node, made from its first input and its first output. -/
def Node.recipe? (node : Node) (options : KernelOptions) : Option Recipe :=
  match node.inputs, node.outputs with
  | input :: _, output :: _ =>
    some ⟨sanitize input, sanitize output, shaderFunction node.op, options⟩
  | _, _ => none

lemma LoweringContext.options_of_recipe? {context : LoweringContext} {options : KernelOptions}
    {r : Recipe} (h : context.recipe? options = some r) : r.options = options := by
  rw [LoweringContext.recipe?] at h
  split at h
  · cases h
    rfl
  · cases h

lemma Node.options_of_recipe? {node : Node} {options : KernelOptions} {r : Recipe}
    (h : node.recipe? options = some r) : r.options = options := by
  rw [Node.recipe?] at h
  split at h
  · cases h
    rfl
  · cases h

/-! ### The map template -/

def dispatchFor (length : Number) (options : KernelOptions) : Except Failure Extent := do
  let lanes ← vectorLanes options.layout.elementType
  mapDispatch length lanes options.workgroupSize

/-- The warnings of the map template about a kernel that writes what it reads. -/
def aliasingWarnings (label input : String) (kernel : Kernel) : List Event :=
  if kernel.inputBinding.aliases kernel.outputBinding then [aliasingWarning label input] else []

/-- The warnings of the map template about a dispatch. -/
def limitWarnings (function input output : String) : Except Failure Extent → List Event
  | .ok dispatch =>
    if maxWorkgroupsPerDimension.lt dispatch.x then
      [limitWarning function input output dispatch.x] else []
  | .error _ => []

/-- Once the kernel is there, the map template computes the dispatch and may warn about it. -/
lemma exec_dispatch (function input output : String) (length : Number) (options : KernelOptions)
    (artifact : Artifact) (s : BuildState) :
    exec (do
        let lanes ← ofExcept (vectorLanes options.layout.elementType)
        let dispatch ← ofExcept (mapDispatch length lanes options.workgroupSize)
        if maxWorkgroupsPerDimension.lt dispatch.x then
          emit (limitWarning function input output dispatch.x)
        return (⟨artifact, dispatch⟩ : Compiled)) s =
      ((dispatchFor length options).map fun dispatch => ⟨artifact, dispatch⟩,
        { s with
          journal := s.journal.recordAll
            (limitWarnings function input output (dispatchFor length options)) }) := by
  rw [dispatchFor]
  cases vectorLanes options.layout.elementType with
  | error failure =>
    rw [exec_bind_of_error (exec_ofExcept _ s)]
    simp [bind, Except.bind, Except.map, limitWarnings]
  | ok lanes =>
    have hdispatch : (Except.ok lanes >>= fun lanes =>
        mapDispatch length lanes options.workgroupSize) =
        mapDispatch length lanes options.workgroupSize := rfl
    rw [exec_bind_of_ok (exec_ofExcept _ s), hdispatch]
    cases mapDispatch length lanes options.workgroupSize with
    | error failure =>
      rw [exec_bind_of_error (exec_ofExcept _ s)]
      simp [Except.map, limitWarnings]
    | ok dispatch =>
      rw [exec_bind_of_ok (exec_ofExcept _ s), limitWarnings]
      by_cases hlimit : maxWorkgroupsPerDimension.lt dispatch.x = true
      · simp [hlimit, exec_map, Except.map]
      · simp [hlimit, Except.map]

lemma exec_lowerMapBetween (node : Node) (input output : String) (length : Number)
    (options : KernelOptions) (s : BuildState) {r : Recipe}
    (hr : r = ⟨input, output, shaderFunction node.op, options⟩) :
    exec (lowerMapBetween node input output length options) s =
      ((dispatchFor length options).map fun dispatch => ⟨s.provided r.key r.kernel, dispatch⟩,
        { s.provide r.key r.kernel with
          journal := (s.provide r.key r.kernel).journal.recordAll
            (aliasingWarnings (node.name.getD output) input (s.provided r.key r.kernel).kernel ++
              limitWarnings r.function input output (dispatchFor length options)) }) := by
  subst hr
  have hprovide := exec_getOrCreate_issue (Kernel.key input output (shaderFunction node.op) options)
    (.generate input output (shaderFunction node.op) options) s
  simp only [lowerMapBetween, Recipe.key, Recipe.kernel]
  rw [exec_bind_of_ok hprovide, aliasingWarnings, Journal.recordAll_append]
  split
  · rw [exec_bind_of_ok (exec_emit _ _)]
    exact exec_dispatch ..
  · exact exec_dispatch ..

/-! ### Unknown shapes -/

namespace ShapeTable

/-- The first of some values that has no shape. -/
def firstUnknown? (shapes : ShapeTable) (names : List String) : Option String :=
  names.find? fun name => (shapes name).isNone

/-- The dimensions of some values that have shapes. -/
def dims (shapes : ShapeTable) (names : List String) : List (List Number) :=
  names.map fun name => (shapes name).getD []

lemma firstUnknown?_append (shapes : ShapeTable) (names names' : List String) :
    shapes.firstUnknown? (names ++ names') =
      (shapes.firstUnknown? names).or (shapes.firstUnknown? names') :=
  List.find?_append

end ShapeTable

/-- Shapes are resolved from the first value to the last, and the first one that is unknown is
reported. -/
lemma resolveDims_eq (shapes : ShapeTable) (names : List String) :
    resolveDims shapes names =
      match shapes.firstUnknown? names with
      | some name => .error (.shapeNotFound name)
      | none => .ok (shapes.dims names) := by
  induction names with
  | nil => rfl
  | cons first rest ih =>
    rw [resolveDims, List.mapM_cons, ShapeTable.firstUnknown?, List.find?_cons]
    rw [resolveDims, ShapeTable.firstUnknown?] at ih
    cases hfirst : shapes first with
    | none => rfl
    | some found =>
      rw [ih]
      cases hrest : rest.find? fun name => (shapes name).isNone with
      | some name => rfl
      | none => simp [ShapeTable.dims, hfirst, bind, Except.bind, pure, Except.pure]

/-! ### Refusals -/

def Node.resolved (node : Node) (shapes : ShapeTable) : LoweringContext :=
  node.context (shapes.dims node.inputs) (shapes.dims node.outputs)

/-- Why a node does not get as far as the cache, if it does not. -/
def Node.refusal? {τ : Type} (node : Node) (registry : Registry τ) (shapes : ShapeTable) :
    Option Failure :=
  match shapes.firstUnknown? (node.inputs ++ node.outputs) with
  | some name => some (.shapeNotFound name)
  | none =>
    if registry.contains node.op = false then some (.unsupportedOperator node.op)
    else if node.inputs = [] ∨ node.outputs = [] then some (.arity node.op)
    else none

section

variable {τ : Type} {node : Node} {lower : τ → Template} {registry : Registry τ}
  {shapes : ShapeTable} {options : KernelOptions} {s : BuildState}

/-- A node that is not refused has all that the map template asks for. -/
lemma Node.exists_of_refusal?_eq_none (h : node.refusal? registry shapes = none) :
    shapes.firstUnknown? (node.inputs ++ node.outputs) = none ∧
      (∃ template, registry.find? node.op = some template) ∧
      (∃ input inputs, node.inputs = input :: inputs) ∧
      ∃ output outputs, node.outputs = output :: outputs := by
  rw [Node.refusal?] at h
  cases hknown : shapes.firstUnknown? (node.inputs ++ node.outputs) with
  | some name => simp [hknown] at h
  | none =>
    simp only [hknown, Table.contains_eq_false_iff, ite_eq_iff, reduceCtorEq, and_false,
      false_or, not_or, and_true] at h
    obtain ⟨hfind, hinputs, houtputs⟩ := h
    exact ⟨rfl, Option.ne_none_iff_exists'.mp hfind, List.exists_cons_of_ne_nil hinputs,
      List.exists_cons_of_ne_nil houtputs⟩

/-- Shapes are resolved before anything else is done. -/
lemma exec_compile_eq :
    exec (node.compile lower registry shapes options) s =
      match shapes.firstUnknown? (node.inputs ++ node.outputs) with
      | some name => (.error (.shapeNotFound name), s)
      | none =>
        match registry.find? node.op with
        | none => (.error (.unsupportedOperator node.op), s)
        | some template =>
          exec (do
            let compiled ← lower template (node.resolved shapes) options
            emit (compiledNote (node.resolved shapes) compiled.dispatch)
            return compiled) s := by
  rw [Node.compile, resolveDims_eq, resolveDims_eq, ShapeTable.firstUnknown?_append]
  cases shapes.firstUnknown? node.inputs with
  | some name => exact exec_bind_of_error (exec_ofExcept _ s) _
  | none =>
    rw [exec_bind_of_ok (exec_ofExcept _ s)]
    cases shapes.firstUnknown? node.outputs with
    | some name => exact exec_bind_of_error (exec_ofExcept _ s) _
    | none =>
      rw [exec_bind_of_ok (exec_ofExcept _ s)]
      cases registry.find? node.op with
      | none => exact exec_throw _ s
      | some template => rfl

/-- The map template has nothing to work on without an input or without an output. -/
lemma exec_lowerMap_of_empty (h : node.inputs = [] ∨ node.outputs = []) :
    exec (lowerMap (node.resolved shapes) options) s = (.error (.arity node.op), s) := by
  rcases h with h | h
  · simp [lowerMap, Node.resolved, Node.context, h]
  · simp [lowerMap, Node.resolved, Node.context, h]

/-- The map template works between the first input and the first output. -/
lemma exec_lowerMap_of_cons {input output : String} {inputs outputs : List String}
    (hinputs : node.inputs = input :: inputs) (houtputs : node.outputs = output :: outputs) :
    exec (lowerMap (node.resolved shapes) options) s =
      exec (lowerMapBetween node (sanitize input) (sanitize output)
        (elementCount ((shapes output).getD [])) options) s := by
  simp [lowerMap, Node.resolved, Node.context, ShapeTable.dims, hinputs, houtputs]

/-- A refused node leaves everything as it was. -/
lemma exec_compile_of_refusal {failure : Failure}
    (hlower : ∀ template, registry.find? node.op = some template → lower template = lowerMap)
    (h : node.refusal? registry shapes = some failure) :
    exec (node.compile lower registry shapes options) s = (.error failure, s) := by
  rw [exec_compile_eq]
  rw [Node.refusal?] at h
  cases hknown : shapes.firstUnknown? (node.inputs ++ node.outputs) with
  | some name =>
    rw [hknown] at h
    cases h
    rfl
  | none =>
    simp only [hknown, Table.contains_eq_false_iff] at h
    cases hfind : registry.find? node.op with
    | none =>
      rw [if_pos hfind] at h
      cases h
      rfl
    | some template =>
      -- the template is asked, and has neither a kernel nor a line to show for it
      rw [if_neg (by simp [hfind])] at h
      split at h
      · rename_i hempty
        cases h
        simp only [hlower template hfind]
        exact exec_bind_of_error (exec_lowerMap_of_empty hempty) _
      · cases h

/-- The note of the compiler about a dispatch, if there is one. -/
def compiledNotes (context : LoweringContext) : Except Failure Extent → List Event
  | .ok dispatch => [compiledNote context dispatch]
  | .error _ => []

/-- A node that is not refused gets the kernel of its recipe, and then its dispatch. -/
lemma exec_compile_of_not_refused
    (hlower : ∀ template, registry.find? node.op = some template → lower template = lowerMap)
    (h : node.refusal? registry shapes = none) (options : KernelOptions) (s : BuildState) :
    ∃ r dims, node.recipe? options = some r ∧
      (node.resolved shapes).outputDims.head? = some dims ∧
      exec (node.compile lower registry shapes options) s =
        let dispatch := dispatchFor (elementCount dims) options
        (dispatch.map fun extent => ⟨s.provided r.key r.kernel, extent⟩,
          { s.provide r.key r.kernel with
            journal := (s.provide r.key r.kernel).journal.recordAll
              (aliasingWarnings (node.name.getD r.output) r.input
                  (s.provided r.key r.kernel).kernel ++
                limitWarnings r.function r.input r.output dispatch ++
                compiledNotes (node.resolved shapes) dispatch) }) := by
  obtain ⟨hknown, ⟨template, hfind⟩, ⟨input, inputs, hinputs⟩, output, outputs, houtputs⟩ :=
    Node.exists_of_refusal?_eq_none h
  refine ⟨_, (shapes output).getD [], by rw [Node.recipe?, hinputs, houtputs],
    by simp [Node.resolved, Node.context, ShapeTable.dims, houtputs], ?_⟩
  simp only [exec_compile_eq, hknown, hfind, hlower template hfind]
  rw [exec_bind, exec_lowerMap_of_cons hinputs houtputs, exec_lowerMapBetween _ _ _ _ _ _ rfl]
  cases dispatchFor (elementCount ((shapes output).getD [])) options with
  | error failure => simp [Except.map, compiledNotes]
  | ok dispatch => simp [Except.map, compiledNotes, exec_map, Journal.recordAll_append]

end

/-! ### Serving a recipe -/

/-- A build served a recipe: it asked the cache for the kernel of the recipe and for nothing else,
and a kernel it yields is the one provided. -/
structure Recipe.Serves (r : Recipe) (s : BuildState)
    (outcome : Except Failure Compiled × BuildState) : Prop where
  cache : outcome.2.cache = (s.provide r.key r.kernel).cache
  nextSerial : outcome.2.nextSerial = (s.provide r.key r.kernel).nextSerial
  artifact : ∀ {compiled}, outcome.1 = .ok compiled →
    compiled.artifact = s.provided r.key r.kernel

/-- The kernel of the recipe is provided and the rest concerns the dispatch and the journal. -/
lemma Recipe.serves_map (r : Recipe) (s : BuildState) (dispatch : Except Failure Extent)
    (journal : Journal) :
    r.Serves s (dispatch.map fun d => ⟨s.provided r.key r.kernel, d⟩,
      { s.provide r.key r.kernel with journal }) := by
  refine ⟨rfl, rfl, ?_⟩
  intro compiled h
  cases dispatch with
  | error failure => simp [Except.map] at h
  | ok d =>
    simp only [Except.map, Except.ok.injEq] at h
    rw [← h]

/-- The map template fails at once or serves the recipe of the context. -/
lemma exec_lowerMap_cases (context : LoweringContext) (options : KernelOptions) (s : BuildState) :
    (∃ failure, exec (lowerMap context options) s = (.error failure, s)) ∨
      ∃ r, context.recipe? options = some r ∧ r.Serves s (exec (lowerMap context options) s) := by
  rw [lowerMap]
  split
  · rename_i input _ output _ length _ hinputs houtputs _
    refine Or.inr ⟨_, by rw [LoweringContext.recipe?, hinputs, houtputs], ?_⟩
    rw [exec_lowerMapBetween _ _ _ _ _ _ rfl]
    exact Recipe.serves_map ..
  · exact Or.inl ⟨_, exec_throw _ s⟩

/-- A compilation whose template is the map template leaves the state as it was and fails, or it
serves the recipe of the node. -/
lemma exec_compile_cases {τ : Type} {node : Node} {lower : τ → Template} {registry : Registry τ}
    (hlower : ∀ template, registry.find? node.op = some template → lower template = lowerMap)
    (shapes : ShapeTable) (options : KernelOptions) (s : BuildState) :
    (∃ failure, exec (node.compile lower registry shapes options) s = (.error failure, s)) ∨
      ∃ r, node.recipe? options = some r ∧
        r.Serves s (exec (node.compile lower registry shapes options) s) := by
  cases hrefusal : node.refusal? registry shapes with
  | some failure => exact Or.inl ⟨failure, exec_compile_of_refusal hlower hrefusal⟩
  | none =>
    obtain ⟨r, dims, hr, _, hexec⟩ := exec_compile_of_not_refused hlower hrefusal options s
    refine Or.inr ⟨r, hr, ?_⟩
    rw [hexec]
    exact r.serves_map ..

end Elementwise
