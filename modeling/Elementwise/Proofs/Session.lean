import Elementwise.Proofs.Cache
import Elementwise.Proofs.Compilation
import Elementwise.Session

/-!
# Histories of sessions

A session compiles nodes, lowers resolved nodes, looks at its cache and clears it, in any order, and
some of these tasks fail. Along every such history the cache stays faithful, so a kernel taken from
it is as if it were generated anew. As long as the cache is not cleared, nodes share a kernel
exactly when their recipes have the same parts.
-/

namespace Elementwise

open Build

/-! ### Runs -/

section

variable {σ ι ρ : Type}

/-- The inputs of a run, each with what is seen of it in the state it meets. -/
def historyOf (next : σ → ι → σ) (view : σ → ι → ρ) : σ → List ι → List (ι × ρ)
  | _, [] => []
  | s, input :: rest => (input, view s input) :: historyOf next view (next s input) rest

/-- Each input stands in the history with what is seen of it after the inputs before it. -/
lemma mem_historyOf_iff {next : σ → ι → σ} {view : σ → ι → ρ} {s : σ} {inputs : List ι} {input : ι}
    {seen : ρ} :
    (input, seen) ∈ historyOf next view s inputs ↔
      ∃ before rest, inputs = before ++ input :: rest ∧
        view (before.foldl next s) input = seen := by
  constructor
  · intro h
    induction inputs generalizing s with
    | nil => cases h
    | cons first rest ih =>
      rcases List.mem_cons.mp h with heq | hrest
      · obtain ⟨rfl, rfl⟩ := Prod.mk.inj heq
        exact ⟨[], rest, rfl, rfl⟩
      · obtain ⟨before, rest', rfl, hseen⟩ := ih hrest
        exact ⟨first :: before, rest', rfl, hseen⟩
  · rintro ⟨before, rest, rfl, rfl⟩
    induction before generalizing s with
    | nil => exact List.mem_cons_self
    | cons first before ih => exact List.mem_cons_of_mem _ ih

end

/-! ### Tasks -/

variable {τ : Type}

/-- What was compiled, if the reply is that something was. -/
def compiledOf? : Except Failure Reply → Option Compiled
  | .ok (.compiled compiled) => some compiled
  | _ => none

lemma eq_of_compiledOf? {reply : Except Failure Reply} {compiled : Compiled}
    (h : compiledOf? reply = some compiled) : reply = .ok (.compiled compiled) := by
  unfold compiledOf? at h
  split at h
  · rw [Option.some.inj h]
  · cases h

namespace Task

/-- The recipe of the kernel that a task compiles. -/
def recipe? : Task τ → Option Recipe
  | .compile node _ _ _ choices => node.recipe? choices.complete
  | .lower context choices => context.recipe? choices.complete
  | _ => none

/-- The operator of a compiled node, if it is registered, has the map template, and the numbers
among the options are safe integers. No factories are brought along. -/
def Admissible : Task τ → Prop
  | .compile node lowering registry _ choices =>
    (∀ template, registry.find? node.op = some template → lowering template = lowerMap) ∧
      choices.complete.IsSafe
  | .lower _ choices => choices.complete.IsSafe
  | .getOrCreate _ _ => False
  | _ => True

/-- A task compiles nothing and leaves the state as it was, serves its recipe, or clears the
cache. -/
lemma exec_build_cases {task : Task τ} (h : task.Admissible) (s : BuildState) :
    (∃ result, exec task.build s = (result, s) ∧ ∀ compiled, result ≠ .ok (.compiled compiled)) ∨
      (∃ r outcome, task.recipe? = some r ∧ r.options.IsSafe ∧ r.Serves s outcome ∧
        exec task.build s = (outcome.1.map .compiled, outcome.2)) ∨
      (task = .clear ∧ exec task.build s = (.ok .done, { s with cache := ∅ })) := by
  cases task with
  | compile node lowering registry shapes choices =>
    rcases exec_compile_cases h.1 shapes choices.complete s with ⟨failure, hfail⟩ | ⟨r, hr, hserves⟩
    · refine Or.inl ⟨.error failure, ?_, by simp⟩
      rw [build, exec_map, hfail]
      rfl
    · exact Or.inr (Or.inl ⟨r, _, hr, Node.options_of_recipe? hr ▸ h.2, hserves, exec_map _ _ s⟩)
  | lower context choices =>
    rcases exec_lowerMap_cases context choices.complete s with ⟨failure, hfail⟩ | ⟨r, hr, hserves⟩
    · refine Or.inl ⟨.error failure, ?_, by simp⟩
      rw [build, exec_map, hfail]
      rfl
    · exact Or.inr (Or.inl ⟨r, _, hr, LoweringContext.options_of_recipe? hr ▸ h, hserves,
        exec_map _ _ s⟩)
  -- looking at the cache answers something else than a compiled kernel
  | get key => exact Or.inl ⟨_, rfl, by simp⟩
  | has key => exact Or.inl ⟨_, rfl, by simp⟩
  | size => exact Or.inl ⟨_, rfl, by simp⟩
  | clear => exact Or.inr (Or.inr ⟨rfl, rfl⟩)
  | getOrCreate key factory => exact absurd h not_false

end Task

/-! ### One step -/

namespace Session

variable {session : Session} {task : Task τ} {tasks : List (Task τ)} {compiled : Compiled}

/-- What a build does in a session is what it does from the start of the session. -/
lemma build_eq {α : Type} (session : Session) (action : Build α) :
    session.build action =
      { result := (exec action session.start).1
        entries := (exec action session.start).2.journal.entries
        session :=
          { cache := (exec action session.start).2.cache
            nextSerial := (exec action session.start).2.nextSerial
            log := (exec action session.start).2.journal.settings } } := rfl

/-- A build that leaves its state as it was leaves the session as it was and logs nothing. -/
lemma build_of_exec_eq {α : Type} {action : Build α} {result : Except Failure α}
    (h : exec action session.start = (result, session.start)) :
    session.build action = ⟨result, [], session⟩ := by
  rw [build_eq, h]
  rfl

def after (session : Session) (task : Task τ) : Session := (session.perform task).session

def reply (session : Session) (task : Task τ) : Except Failure Reply :=
  (session.perform task).result

lemma reply_eq : session.reply task = (exec task.build session.start).1 := rfl

lemma cache_after : (session.after task).cache = (exec task.build session.start).2.cache := rfl

lemma nextSerial_after :
    (session.after task).nextSerial = (exec task.build session.start).2.nextSerial := rfl

lemma faithful_after (hcache : session.cache.Faithful) (htask : task.Admissible) :
    (session.after task).cache.Faithful := by
  rw [cache_after]
  rcases task.exec_build_cases htask session.start with
    ⟨result, h, _⟩ | ⟨r, outcome, _, hsafe, hserves, h⟩ | ⟨_, h⟩
  · rw [h]
    exact hcache
  · rw [h, hserves.cache]
    exact BuildState.faithful_provide hcache hsafe
  · rw [h]
    exact Cache.faithful_empty

lemma numbered_after (hcache : session.cache.Numbered session.nextSerial)
    (htask : task.Admissible) :
    (session.after task).cache.Numbered (session.after task).nextSerial := by
  rw [cache_after, nextSerial_after]
  rcases task.exec_build_cases htask session.start with
    ⟨result, h, _⟩ | ⟨r, outcome, _, _, hserves, h⟩ | ⟨_, h⟩
  · rw [h]
    exact hcache
  · rw [h, hserves.cache, hserves.nextSerial]
    exact BuildState.numbered_provide hcache r.key r.kernel
  · rw [h]
    exact Cache.numbered_empty _

/-- Cached kernels stay where they are unless the cache is cleared. -/
lemma find?_after_of_find? {key : String} {artifact : Artifact} (htask : task.Admissible)
    (hclear : task ≠ .clear) (hfind : session.cache.find? key = some artifact) :
    (session.after task).cache.find? key = some artifact := by
  rw [cache_after]
  rcases task.exec_build_cases htask session.start with
    ⟨result, h, _⟩ | ⟨r, outcome, _, _, hserves, h⟩ | ⟨rfl, _⟩
  · rw [h]
    exact hfind
  · rw [h, hserves.cache]
    exact BuildState.find?_provide_of_find? hfind
  · exact absurd rfl hclear

/-- A kernel that a task compiles was provided for the recipe of the task. -/
lemma exists_recipe_of_reply (htask : task.Admissible)
    (hreply : session.reply task = .ok (.compiled compiled)) :
    ∃ r, task.recipe? = some r ∧ r.options.IsSafe ∧
      compiled.artifact = session.start.provided r.key r.kernel ∧
      (session.after task).cache.find? r.key = some compiled.artifact := by
  rw [reply_eq] at hreply
  rw [cache_after]
  rcases task.exec_build_cases htask session.start with
    ⟨result, h, hresult⟩ | ⟨r, ⟨result, s'⟩, hr, hsafe, hserves, h⟩ | ⟨_, h⟩
  · rw [h] at hreply
    exact absurd hreply (hresult compiled)
  · rw [h] at hreply ⊢
    have hresult : result = .ok compiled := by
      cases result with
      | error failure => cases hreply
      | ok other =>
        simp only [Except.map, Except.ok.injEq, Reply.compiled.injEq] at hreply
        rw [hreply]
    have hartifact := hserves.artifact hresult
    refine ⟨r, hr, hsafe, hartifact, ?_⟩
    rw [hserves.cache, hartifact]
    exact BuildState.find?_provide_self _ _
  · rw [h] at hreply
    cases hreply

/-! ### Whole histories -/

def run (session : Session) (tasks : List (Task τ)) : Session := tasks.foldl after session

/-- The tasks of a run, each with the reply to it. -/
def history (session : Session) (tasks : List (Task τ)) :
    List (Task τ × Except Failure Reply) :=
  historyOf after reply session tasks

/-- A task that compiles a kernel stands in the history with that kernel. -/
lemma exists_mem_history_append (before rest : List (Task τ))
    (h : (compiledOf? ((session.run before).reply task)).isSome = true) :
    ∃ compiled, (task, .ok (.compiled compiled)) ∈ session.history (before ++ task :: rest) := by
  obtain ⟨compiled, hcompiled⟩ := Option.isSome_iff_exists.mp h
  exact ⟨compiled, mem_historyOf_iff.mpr ⟨before, rest, rfl, eq_of_compiledOf? hcompiled⟩⟩

lemma faithful_run (hcache : session.cache.Faithful) (htasks : ∀ task ∈ tasks, task.Admissible) :
    (session.run tasks).cache.Faithful :=
  List.foldlRecOn (motive := fun session : Session => session.cache.Faithful) tasks after hcache
    fun _ h task hmem => faithful_after h (htasks task hmem)

lemma numbered_run (hcache : session.cache.Numbered session.nextSerial)
    (htasks : ∀ task ∈ tasks, task.Admissible) :
    (session.run tasks).cache.Numbered (session.run tasks).nextSerial :=
  List.foldlRecOn (motive := fun session : Session => session.cache.Numbered session.nextSerial)
    tasks after hcache fun _ h task hmem => numbered_after h (htasks task hmem)

lemma find?_run_of_find? {key : String} {artifact : Artifact}
    (htasks : ∀ task ∈ tasks, task.Admissible ∧ task ≠ .clear)
    (hfind : session.cache.find? key = some artifact) :
    (session.run tasks).cache.find? key = some artifact :=
  List.foldlRecOn (motive := fun session : Session => session.cache.find? key = some artifact)
    tasks after hfind fun _ h task hmem =>
      find?_after_of_find? (htasks task hmem).1 (htasks task hmem).2 h

/-- Every kernel that a run compiles is as if it were generated anew. -/
lemma agrees_of_mem_history_of_faithful (hcache : session.cache.Faithful)
    (htasks : ∀ task ∈ tasks, task.Admissible)
    (h : (task, .ok (.compiled compiled)) ∈ session.history tasks) :
    ∃ r, task.recipe? = some r ∧ compiled.artifact.kernel.Agrees r.kernel := by
  obtain ⟨before, rest, rfl, hreply⟩ := mem_historyOf_iff.mp h
  obtain ⟨hbefore, htask, _⟩ := List.forall_mem_append.mp htasks |>.imp_right
    List.forall_mem_cons.mp
  obtain ⟨r, hr, hsafe, hartifact, _⟩ := exists_recipe_of_reply htask hreply
  rw [hartifact]
  exact ⟨r, hr, BuildState.agrees_provided (faithful_run hcache hbefore) hsafe⟩

/-- Without clearing, every kernel that a run compiles is in the cache at its end. -/
lemma find?_run_of_mem_history (htasks : ∀ task ∈ tasks, task.Admissible ∧ task ≠ .clear)
    (h : (task, .ok (.compiled compiled)) ∈ session.history tasks) :
    ∃ r, task.recipe? = some r ∧ r.options.IsSafe ∧
      (session.run tasks).cache.find? r.key = some compiled.artifact := by
  obtain ⟨before, rest, rfl, hreply⟩ := mem_historyOf_iff.mp h
  obtain ⟨_, htask, hrest⟩ := List.forall_mem_append.mp htasks |>.imp_right
    List.forall_mem_cons.mp
  obtain ⟨r, hr, hsafe, _, hfind⟩ := exists_recipe_of_reply htask.1 hreply
  have hrun : session.run (before ++ task :: rest) = ((session.run before).after task).run rest :=
    List.foldl_append
  rw [hrun]
  exact ⟨r, hr, hsafe, find?_run_of_find? hrest hfind⟩

end Session

/-- The cache is transparent: whatever was done before, a successful task of a run that started
with an empty cache yields a kernel that agrees with a new kernel of the task's recipe. -/
theorem agrees_of_mem_history {session : Session} (empty : session.cache = ∅)
    {tasks : List (Task τ)} (admissible : ∀ task ∈ tasks, task.Admissible)
    {task : Task τ} {compiled : Compiled}
    (success : (task, .ok (.compiled compiled)) ∈ session.history tasks) :
    ∃ r, task.recipe? = some r ∧ compiled.artifact.kernel.Agrees r.kernel := by
  have hcache : session.cache.Faithful := by
    rw [empty]
    exact Cache.faithful_empty
  exact Session.agrees_of_mem_history_of_faithful hcache admissible success

/-- Compile an `Abs` node between two values of eight elements. -/
def compileAbs (input output : String) (choices : KernelOptions.Choices) : Task Unit :=
  .compile ⟨"Abs", [input], [output], none⟩ (fun _ => lowerMap)
    ((∅ : Registry Unit).insert "Abs" ()) (fun _ => some [8]) choices

/-- A run with two spellings of the same names. The first task fails once its kernel is cached. -/
def spellingRun : List (Task Unit) :=
  [compileAbs "x" "y" { workgroupSize := some ⟨0, 1, 1⟩ },
   compileAbs "x" "y" { layout := some { annotations := [("origin", .null)] } },
   compileAbs "x:" "(y)" { entryPoint := some "main" },
   compileAbs "x" "y" { workgroupSize := some ⟨2, 1, 1⟩ }]

/-- Options of version 1 are safe when they set the first dimension of a workgroup alone. -/
lemma KernelOptions.isSafe_of_workgroupSize {options : KernelOptions} {n : Int}
    (hn : n.natAbs ≤ 2 ^ 53 - 1) (hsize : options.workgroupSize = ⟨Number.ofInt n, 1, 1⟩)
    (hversion : options.layout.version = 1) : options.IsSafe := by
  have hone : Number.IsSafe 1 := ⟨1, by decide, rfl⟩
  constructor
  · rw [hsize, Extent.isSafe_iff]
    exact ⟨⟨n, hn, rfl⟩, hone, hone⟩
  · rw [hversion]
    exact hone

lemma compileAbs_admissible {input output : String} {choices : KernelOptions.Choices} {n : Int}
    (hn : n.natAbs ≤ 2 ^ 53 - 1) (hsize : choices.complete.workgroupSize = ⟨Number.ofInt n, 1, 1⟩)
    (hversion : choices.complete.layout.version = 1) :
    (compileAbs input output choices).Admissible :=
  ⟨fun _ _ => rfl, KernelOptions.isSafe_of_workgroupSize hn hsize hversion⟩

lemma spellingRun_admissible : ∀ task ∈ spellingRun, task.Admissible := by
  have hzero : (0 : Int).natAbs ≤ 2 ^ 53 - 1 := by decide
  have hone : (1 : Int).natAbs ≤ 2 ^ 53 - 1 := by decide
  have htwo : (2 : Int).natAbs ≤ 2 ^ 53 - 1 := by decide
  simp only [spellingRun, List.forall_mem_cons]
  exact ⟨compileAbs_admissible hzero rfl rfl, compileAbs_admissible hone rfl rfl,
    compileAbs_admissible hone rfl rfl, compileAbs_admissible htwo rfl rfl, by simp⟩

theorem agrees_of_mem_history_spellingRun :
    (∀ task ∈ spellingRun, task.Admissible) ∧
      ∃ compiled, (compileAbs "x:" "(y)" { entryPoint := some "main" }, .ok (.compiled compiled)) ∈
          Session.history {} spellingRun ∧
        compiled.artifact.kernel.Agrees (.generate "x" "y" "abs") := by
  have hsuccess : ∃ compiled, (compileAbs "x:" "(y)" { entryPoint := some "main" },
      .ok (.compiled compiled)) ∈ Session.history {} spellingRun :=
    Session.exists_mem_history_append (spellingRun.take 2) _ (by decide +kernel)
  obtain ⟨compiled, hmem⟩ := hsuccess
  obtain ⟨r, hr, hagrees⟩ := agrees_of_mem_history rfl spellingRun_admissible hmem
  have hrecipe : (compileAbs "x:" "(y)" { entryPoint := some "main" }).recipe? =
      some ⟨"x", "y", "abs", {}⟩ := by rfl
  rw [hrecipe] at hr
  cases hr
  exact ⟨spellingRun_admissible, compiled, hmem, hagrees⟩

/-- The names of a recipe are the first names of the node without these nine characters. -/
lemma Node.recipe?_eq_filter {node : Node} {input output : String} {inputs outputs : List String}
    (hinputs : node.inputs = input :: inputs) (houtputs : node.outputs = output :: outputs)
    (options : KernelOptions) :
    let kept (name : String) := String.ofList
      (name.toList.filter (· ∉ ['(', ')', ',', '"', '.', ';', ':', '\x27', '/']))
    node.recipe? options =
      some ⟨kept input, kept output, shaderFunction node.op, options⟩ := by
  intro kept
  have hkept : ∀ name, sanitize name = kept name := by
    intro name
    simp [sanitize, strippedChars, kept]
  rw [Node.recipe?, hinputs, houtputs, ← hkept, ← hkept]

/-- Sharing is exact: as long as the cache is not cleared, two successful tasks of a run that
started with an empty cache yield the same kernel exactly when their recipes have the same parts. -/
theorem serial_eq_iff_same {session : Session} (empty : session.cache = ∅)
    {tasks : List (Task τ)} (admissible : ∀ task ∈ tasks, task.Admissible)
    (uncleared : ∀ task ∈ tasks, task ≠ .clear) {first second : Task τ} {a b : Compiled}
    (hfirst : (first, .ok (.compiled a)) ∈ session.history tasks)
    (hsecond : (second, .ok (.compiled b)) ∈ session.history tasks) :
    ∃ r s, first.recipe? = some r ∧ second.recipe? = some s ∧
      (a.artifact.serial = b.artifact.serial ↔ r.Same s) ∧
      (r.Same s → a.artifact = b.artifact) := by
  have hnumbered : session.cache.Numbered session.nextSerial := by
    rw [empty]
    exact Cache.numbered_empty _
  have hend := Session.numbered_run hnumbered admissible
  have htasks : ∀ task ∈ tasks, task.Admissible ∧ task ≠ .clear :=
    fun task h => ⟨admissible task h, uncleared task h⟩
  obtain ⟨r, hr, hrsafe, hrfind⟩ := Session.find?_run_of_mem_history htasks hfirst
  obtain ⟨s, hs, hssafe, hsfind⟩ := Session.find?_run_of_mem_history htasks hsecond
  have hshare : r.Same s → a.artifact = b.artifact := by
    intro hsame
    rw [hsame.key, hsfind] at hrfind
    exact (Option.some.inj hrfind).symm
  refine ⟨r, s, hr, hs, ⟨?_, ?_⟩, hshare⟩
  · -- at the end of the run both kernels are cached, and numbers tell their keys apart
    intro hserial
    exact (Recipe.key_eq_iff_same hrsafe hssafe).mp (hend.inj hrfind hsfind hserial)
  · intro hsame
    rw [hshare hsame]

theorem serial_eq_iff_same_spellingRun :
    ((∀ task ∈ spellingRun, task.Admissible) ∧ ∀ task ∈ spellingRun, task ≠ .clear) ∧
      ∃ a b c, (compileAbs "x" "y" { layout := some { annotations := [("origin", .null)] } },
          .ok (.compiled a)) ∈ Session.history {} spellingRun ∧
        (compileAbs "x:" "(y)" { entryPoint := some "main" }, .ok (.compiled b)) ∈
          Session.history {} spellingRun ∧
        (compileAbs "x" "y" { workgroupSize := some ⟨2, 1, 1⟩ }, .ok (.compiled c)) ∈
          Session.history {} spellingRun ∧
        a.artifact = b.artifact ∧ a.artifact.serial ≠ c.artifact.serial := by
  have huncleared : ∀ task ∈ spellingRun, task ≠ .clear := by
    simp [spellingRun, compileAbs]
  have hfirst : ∃ a, (compileAbs "x" "y" { layout := some { annotations := [("origin", .null)] } },
      .ok (.compiled a)) ∈ Session.history {} spellingRun :=
    Session.exists_mem_history_append (spellingRun.take 1) _ (by decide +kernel)
  have hsecond : ∃ b, (compileAbs "x:" "(y)" { entryPoint := some "main" }, .ok (.compiled b)) ∈
      Session.history {} spellingRun :=
    Session.exists_mem_history_append (spellingRun.take 2) _ (by decide +kernel)
  have hthird : ∃ c, (compileAbs "x" "y" { workgroupSize := some ⟨2, 1, 1⟩ }, .ok (.compiled c)) ∈
      Session.history {} spellingRun :=
    Session.exists_mem_history_append (spellingRun.take 3) _ (by decide +kernel)
  obtain ⟨a, ha⟩ := hfirst
  obtain ⟨b, hb⟩ := hsecond
  obtain ⟨c, hc⟩ := hthird
  refine ⟨⟨spellingRun_admissible, huncleared⟩, a, b, c, ha, hb, hc, ?_, ?_⟩
  · obtain ⟨r, s, hr, hs, _, hshare⟩ :=
      serial_eq_iff_same rfl spellingRun_admissible huncleared ha hb
    cases hr
    cases hs
    exact hshare ⟨rfl, rfl, rfl, rfl, rfl, rfl, rfl, rfl, rfl⟩
  · obtain ⟨r, s, hr, hs, hiff, _⟩ :=
      serial_eq_iff_same rfl spellingRun_admissible huncleared ha hc
    cases hr
    cases hs
    intro hserial
    have hsize := (hiff.mp hserial).workgroupSize
    exact absurd hsize (by decide)

end Elementwise
