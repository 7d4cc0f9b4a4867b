import Elementwise.Proofs.Caller
import Elementwise.Proofs.Compilation.Outcome

/-!
# What compilations log

A compilation logs up to four lines: that a kernel was generated, that the kernel writes the buffer
it reads, that its dispatch exceeds the limit, and that the node was compiled. Whether the second
line is logged depends on the names of the kernel in the cache, which are those of the node in every
session that compiling, lowering and clearing lead to.
-/

namespace Elementwise

open Build

/-! ### Reachable sessions -/

/-- Everything, as long as the kernels put into the cache are those that the map template makes with
safe options. -/
def Build.Permit.mapped : Permit where
  event _ := True
  clear := True
  kernel key kernel := ∃ r : Recipe, r.options.IsSafe ∧ r.key = key ∧ kernel = r.kernel

lemma Build.Permit.allowsLog_mapped : Permit.mapped.AllowsLog := fun _ _ => trivial

lemma Build.Permit.allowsMaps_mapped {options : KernelOptions} (safe : options.IsSafe) :
    Permit.mapped.AllowsMaps options :=
  fun r hr => ⟨r, hr ▸ safe, rfl, rfl⟩

/-- An admissible task reaches the cache through the map template. -/
lemma Task.Admissible.within_mapped {τ : Type} {task : Task τ} (h : task.Admissible) :
    Within .mapped task.build := by
  cases task with
  | compile node lowering registry shapes choices =>
    have hlower : ∀ template, registry.find? node.op = some template →
        ∀ context, Within .mapped (lowering template context choices.complete) := by
      intro template hfind context
      rw [h.1 template hfind]
      exact .lowerMap Permit.allowsLog_mapped (Permit.allowsMaps_mapped h.2) context
    exact (Within.compile Permit.allowsLog_mapped hlower shapes).map _
  | lower context choices =>
    exact (Within.lowerMap Permit.allowsLog_mapped (Permit.allowsMaps_mapped h) context).map _
  | get key => exact (Within.cached? key).map _
  | has key => exact (Within.isCached key).map _
  | size => exact Within.cacheSize.map _
  | clear => exact (Within.clear trivial).bind fun _ => .pure _
  | getOrCreate key factory => exact absurd h not_false

/-- The sessions that compiling, lowering and clearing lead to from an empty cache. Nodes may be
compiled with templates of callers, and the log settings may change on the way. -/
inductive Session.Reachable : Session → Prop where
  | start {session : Session} (empty : session.cache = ∅) : Reachable session
  | after {session : Session} {τ : Type} {task : Task τ} (h : Reachable session)
      (mapped : Within .mapped task.build) : Reachable (session.after task)
  | relog {session : Session} (h : Reachable session) (log : LogSettings) :
      Reachable { session with log }

lemma Session.Reachable.faithful {session : Session} (h : session.Reachable) :
    session.cache.Faithful := by
  induction h with
  | start empty =>
    rw [empty]
    exact Cache.faithful_empty
  | after _ mapped ih =>
    rw [Session.cache_after]
    exact mapped.kernel_of_find? ih
  | relog _ _ ih => exact ih

lemma Session.Reachable.run {τ : Type} {session : Session} (h : session.Reachable)
    {tasks : List (Task τ)} (htasks : ∀ task ∈ tasks, task.Admissible) :
    (session.run tasks).Reachable :=
  List.foldlRecOn (motive := Session.Reachable) tasks Session.after h
    fun _ h task hmem => h.after (htasks task hmem).within_mapped

/-- The recipe of a node takes the cleaned first names. -/
lemma Node.eq_of_recipe? {node : Node} {options : KernelOptions} {r : Recipe}
    {input output : String} (hinput : node.inputs.head? = some input)
    (houtput : node.outputs.head? = some output) (h : node.recipe? options = some r) :
    r = ⟨sanitize input, sanitize output, shaderFunction node.op, options⟩ := by
  obtain ⟨inputs, hinputs⟩ := List.head?_eq_some_iff.mp hinput
  obtain ⟨outputs, houtputs⟩ := List.head?_eq_some_iff.mp houtput
  rw [Node.recipe?, hinputs, houtputs, Option.some.injEq] at h
  exact h.symm

/-! ### The lines of a compilation -/

/-- A line is logged about a kernel that was not cached before. -/
lemma Session.journal_provide (session : Session) (key : String) (kernel : Kernel) :
    (session.start.provide key kernel).journal =
      { settings := session.log
        entries := if session.cache.contains key then []
          else session.log.line "Kernel-Cache" .debug 4 ("Generated " ++ key) } := by
  have hstart : session.start.cache = session.cache := rfl
  rw [BuildState.provide, Table.contains, hstart]
  cases session.cache.find? key with
  | some artifact => rfl
  | none =>
    dsimp only
    rw [Journal.record_eq, cacheLogger, LogSettings.made_say]
    rfl

namespace LogSettings

variable (settings : LogSettings)

/-- A line is logged about a recipe that has one name for both buffers. In a faithful cache the
kernel provided for a recipe has the names of the recipe. -/
lemma made_aliasingWarnings {s : BuildState} {r : Recipe} (hcache : s.cache.Faithful)
    (hr : r.options.IsSafe) (label : String) :
    (aliasingWarnings label r.input (s.provided r.key r.kernel).kernel).flatMap settings.made =
      if r.input = r.output then
        settings.line "Map-Kernel" .warn 2 ("'" ++ label ++ "' reads and writes buffer '" ++
          r.input ++ "'; invocation order is undefined")
      else [] := by
  have hbindings := (BuildState.agrees_provided hcache hr).bindings
  simp only [Kernel.bindings, List.cons.injEq, and_true] at hbindings
  have haliases : r.kernel.inputBinding.aliases r.kernel.outputBinding = true ↔
      r.input = r.output := beq_iff_eq
  rw [aliasingWarnings, hbindings.1, hbindings.2, aliasingWarning, mapLogger, flatMap_made_ite_say]
  simp only [haliases]
  rfl

/-- A line is logged about a dispatch that exceeds the limit, if there is a dispatch. -/
lemma made_limitWarnings (function input output : String) (length : Number)
    (options : KernelOptions) :
    (limitWarnings function input output (dispatchFor length options)).flatMap settings.made =
      if (options.layout.elementType ∈ vectorTypes ∧
          options.workgroupSize.x.isPositiveInteger = true) ∧
        maxWorkgroupsPerDimension.lt (options.workgroups length) = true then
        settings.line "Map-Kernel" .warn 2 (function ++ " " ++ input ++ " -> " ++ output ++ ": " ++
          (options.workgroups length).text ++
          " workgroups exceed the default per-dimension limit of " ++
          maxWorkgroupsPerDimension.text)
      else [] := by
  simp only [← KernelOptions.fault?_eq_none_iff, dispatchFor_eq]
  cases options.fault? with
  | some failure => simp [limitWarnings]
  | none =>
    rw [limitWarnings, limitWarning, mapLogger, flatMap_made_ite_say]
    simp only [true_and]
    rfl

/-- A line is logged about a node that has a dispatch. -/
lemma made_compiledNotes (node : Node) (shapes : ShapeTable) (artifact : Artifact)
    (dispatch : Except Failure Extent) :
    (compiledNotes (node.resolved shapes) dispatch).flatMap settings.made =
      (dispatch.map fun extent => Compiled.mk artifact extent).toOption.elim [] fun compiled =>
        settings.line "Kernel-Compiler" .debug 4
          (node.op ++ " " ++ ",".intercalate (node.inputs.map sanitize) ++ " -> " ++
            ",".intercalate (node.outputs.map sanitize) ++ " dispatch [" ++
            joinNumbers ", " compiled.dispatch.toList ++ "]") := by
  cases dispatch with
  | error failure => rfl
  | ok extent =>
    rw [compiledNotes, List.flatMap_singleton, compiledNote, compilerLogger, made_say]
    rfl

end LogSettings

/-- What a node that is not refused yields in a session, and what is logged after its kernel was
provided. -/
lemma Session.build_compile_eq {τ : Type} (session : Session) {node : Node}
    {lower : τ → Template} {registry : Registry τ} {shapes : ShapeTable}
    (hlower : ∀ template, registry.find? node.op = some template → lower template = lowerMap)
    (h : node.refusal? registry shapes = none) {input output : String}
    (hinput : node.inputs.head? = some input) (houtput : node.outputs.head? = some output)
    {dims : List Number} (hdims : shapes output = some dims) {options : KernelOptions} {r : Recipe}
    (hr : r = ⟨sanitize input, sanitize output, shaderFunction node.op, options⟩) :
    let step := session.build (node.compile lower registry shapes options)
    let dispatch := dispatchFor (elementCount dims) options
    let artifact := session.start.provided r.key r.kernel
    step.result = dispatch.map (fun extent => ⟨artifact, extent⟩) ∧
      step.entries =
        (if session.cache.contains r.key then []
          else session.log.line "Kernel-Cache" .debug 4 ("Generated " ++ r.key)) ++
        (aliasingWarnings (node.name.getD r.output) r.input artifact.kernel).flatMap
          session.log.made ++
        (limitWarnings r.function r.input r.output dispatch).flatMap session.log.made ++
        (compiledNotes (node.resolved shapes) dispatch).flatMap session.log.made := by
  obtain ⟨r', found, hr', hfound, hexec⟩ :=
    exec_compile_of_not_refused hlower h options session.start
  have hsame : r' = r := by
    rw [hr]
    exact Node.eq_of_recipe? hinput houtput hr'
  have hshape : found = dims := by
    simpa [Node.resolved, Node.context, ShapeTable.dims, houtput, hdims, eq_comm] using hfound
  subst hsame hshape
  rw [Session.build_eq, hexec]
  refine ⟨rfl, ?_⟩
  dsimp only
  rw [journal_provide, Journal.recordAll_eq]
  simp only [List.flatMap_append, List.append_assoc]

/-- A dispatch has the counted workgroups along its first dimension. -/
lemma x_dispatch_eq_workgroups {options : KernelOptions} {length : Number} {artifact : Artifact}
    {compiled : Compiled}
    (h : (dispatchFor length options).map (fun extent => ⟨artifact, extent⟩) = .ok compiled) :
    compiled.dispatch.x = options.workgroups length := by
  rw [dispatchFor_eq] at h
  cases hfault : options.fault? with
  | some failure =>
    rw [hfault] at h
    cases h
  | none =>
    rw [hfault] at h
    cases h
    rfl

/-- The log of a compilation is exact. In every reachable session, a compilation with the map
template that gets as far as the cache logs these lines in this order: a note of the cache if the
key was absent, a warning if the first names are equal once they are cleaned, a warning if there is
a dispatch that exceeds the limit, and a note of the compiler if the compilation succeeds. Each line
is kept when the level is not below 4 for a note and not below 2 for a warning. The workgroups
compared with the limit are those of the dispatch. -/
theorem entries_compile_exact {τ : Type} {session : Session} (reachable : session.Reachable)
    {node : Node} {lower : τ → Template} {registry : Registry τ}
    (map : ∀ template, registry.find? node.op = some template → lower template = lowerMap)
    {shapes : ShapeTable} (unrefused : node.refusal? registry shapes = none)
    {input output : String} (firstInput : node.inputs.head? = some input)
    (firstOutput : node.outputs.head? = some output)
    {dims : List Number} (shape : shapes output = some dims)
    {choices : KernelOptions.Choices} (safe : choices.complete.IsSafe) :
    let options := choices.complete
    let step := session.build (node.compile lower registry shapes options)
    let function := shaderFunction node.op
    let key := Kernel.key (sanitize input) (sanitize output) function options
    let workgroups := options.workgroups (elementCount dims)
    (∀ compiled, step.result = .ok compiled → compiled.dispatch.x = workgroups) ∧
    step.entries =
      (if session.cache.contains key then []
        else session.log.line "Kernel-Cache" .debug 4 ("Generated " ++ key)) ++
      (if sanitize input = sanitize output then
          session.log.line "Map-Kernel" .warn 2
            ("'" ++ node.name.getD (sanitize output) ++ "' reads and writes buffer '" ++
              sanitize input ++ "'; invocation order is undefined")
        else []) ++
      (if (options.layout.elementType ∈ vectorTypes ∧
            options.workgroupSize.x.isPositiveInteger = true) ∧
          maxWorkgroupsPerDimension.lt workgroups = true then
          session.log.line "Map-Kernel" .warn 2
            (function ++ " " ++ sanitize input ++ " -> " ++ sanitize output ++ ": " ++
              workgroups.text ++ " workgroups exceed the default per-dimension limit of " ++
              maxWorkgroupsPerDimension.text)
        else []) ++
      step.result.toOption.elim [] fun compiled =>
        session.log.line "Kernel-Compiler" .debug 4
          (node.op ++ " " ++ ",".intercalate (node.inputs.map sanitize) ++ " -> " ++
            ",".intercalate (node.outputs.map sanitize) ++ " dispatch [" ++
            joinNumbers ", " compiled.dispatch.toList ++ "]") := by
  intro options step function key workgroups
  obtain ⟨hresult, hentries⟩ :=
    session.build_compile_eq map unrefused firstInput firstOutput shape rfl
  refine ⟨fun compiled hcompiled => ?_, ?_⟩
  · rw [hresult] at hcompiled
    exact x_dispatch_eq_workgroups hcompiled
  -- the cache has to be faithful for the warning about the names and for nothing else
  · rw [hentries, hresult, session.log.made_aliasingWarnings reachable.faithful safe,
      session.log.made_limitWarnings, session.log.made_compiledNotes]
    rfl

/-! A session in which a kernel that writes the buffer it reads was cached by a template of a
caller, after a fault of the options. -/

/-- A template that turns to the default options where those given fail. -/
def lenientTemplate : Template := fun context options =>
  tryCatch (lowerMap context options) fun _ => lowerMap context {}

/-- Shapes with as many elements as make one workgroup too many. -/
def wideShapes : ShapeTable := fun _ => some [262144]

/-- Compile an `Abs` node from `x` to another spelling of `x` with the lenient template. -/
def lenientTask : Task Unit :=
  .compile ⟨"Abs", ["x"], ["x;"], none⟩ (fun _ => lenientTemplate) absRegistry wideShapes
    { workgroupSize := some ⟨0, 1, 1⟩ }

lemma lenientTask_within : Within .mapped lenientTask.build := by
  refine (Within.compile Permit.allowsLog_mapped (fun _ _ context => ?_) wideShapes).map _
  have hgiven : KernelOptions.IsSafe { workgroupSize := ⟨0, 1, 1⟩ } :=
    KernelOptions.isSafe_of_workgroupSize (show (0 : Int).natAbs ≤ _ by decide) rfl rfl
  have hdefault : KernelOptions.IsSafe {} :=
    KernelOptions.isSafe_of_workgroupSize (show (1 : Int).natAbs ≤ _ by decide) rfl rfl
  exact (Within.lowerMap Permit.allowsLog_mapped (Permit.allowsMaps_mapped hgiven) context).recover
    fun _ => .lowerMap Permit.allowsLog_mapped (Permit.allowsMaps_mapped hdefault) context

/-- With a new entry point all four lines are logged. With the default one the kernel of the lenient
template is found, whose names were spelled differently, and a lower level keeps the warnings. -/
theorem entries_compile_exact_spellings :
    let node : Node := ⟨"Abs", ["x:"], ["(x)", "y"], none⟩
    let session := (Session.run {} spellingRun).after lenientTask
    let lines (level : LogLevel) (choices : KernelOptions.Choices) :=
      (Session.build { session with log := ⟨level.number, .recorder "capture"⟩ } (node.compile
        (fun _ => lowerMap) absRegistry wideShapes choices.complete)).entries.map
          fun entry => (entry.channel, entry.items.filterMap Value.toText?)
    (session.Reachable ∧ node.refusal? absRegistry wideShapes = none) ∧
      lines .debug { entryPoint := some "run" } =
        [("debug", ["[Kernel-Cache]",
            "Generated " ++ Kernel.key "x" "x" "abs" { entryPoint := "run" }]),
         ("warn", ["[Map-Kernel]",
            "'x' reads and writes buffer 'x'; invocation order is undefined"]),
         ("warn", ["[Map-Kernel]", "abs x -> x: 65536 workgroups exceed the default " ++
            "per-dimension limit of 65535"]),
         ("debug", ["[Kernel-Compiler]", "Abs x -> x,y dispatch [65536, 1, 1]"])] ∧
      (lines .warn {}).map Prod.fst = ["warn", "warn"] ∧
      (lines .debug {}).map Prod.fst = ["warn", "warn", "debug"] := by
  intro node session lines
  have hreachable : session.Reachable :=
    ((Session.Reachable.start rfl).run spellingRun_admissible).after lenientTask_within
  have hrefusal : node.refusal? absRegistry wideShapes = none := by decide +kernel
  have hsafe : ∀ entryPoint,
      (KernelOptions.Choices.mk none none entryPoint).complete.IsSafe := fun _ =>
    KernelOptions.isSafe_of_workgroupSize (show (1 : Int).natAbs ≤ _ by decide) rfl rfl
  have hentries : ∀ (level : LogLevel) (entryPoint : Option String), _ :=
    fun level entryPoint => (@entries_compile_exact Unit _
      (hreachable.relog ⟨level.number, .recorder "capture"⟩) node (fun _ => lowerMap) absRegistry
      (fun _ _ => rfl) wideShapes hrefusal _ _ rfl rfl _ rfl ⟨none, none, entryPoint⟩
      (hsafe entryPoint)).2
  simp only [lines, hentries]
  exact ⟨⟨hreachable, hrefusal⟩, by decide +kernel, by decide +kernel, by decide +kernel⟩

end Elementwise
