import Elementwise.Proofs.Workspace

/-!
# Stability of cached kernels

As long as nothing clears the cache, whatever is cached stays there: under the same key and as the
same kernel, whatever factories and templates do meanwhile. A request for a known key is answered
from the cache, and the factory that comes with it does not run: whatever it would do, the workspace
is left as it was.
-/

namespace Elementwise

open Build

/-- Everything but clearing the cache. -/
def Build.Permit.noClear : Permit where
  event _ := True
  clear := False
  kernel _ _ := True

lemma Build.Permit.isOpen_noClear : Permit.noClear.IsOpen :=
  ⟨fun _ _ => trivial, fun _ _ => trivial⟩

namespace Workspace

variable {w : Workspace} {operation : Operation} {operations : List Operation} {key : String}
  {artifact : Artifact}

/-! ### Looking at the cache -/

/-- A task that leaves its state as it was leaves the workspace as it was and logs nothing. -/
lemma performTask_of_exec_eq {task : Task Template} {reply : Except Failure Reply}
    (h : exec task.build w.session.start = (reply, w.session.start)) :
    w.performTask task = ⟨reply, [], w⟩ := by
  rw [performTask, Session.perform, Session.build_of_exec_eq h]

lemma perform_get (w : Workspace) (key : String) :
    w.perform (.task (.get key)) = ⟨.ok (.cached (w.session.cache.find? key)), [], w⟩ :=
  performTask_of_exec_eq rfl

lemma perform_has (w : Workspace) (key : String) :
    w.perform (.task (.has key)) = ⟨.ok (.answer (w.session.cache.contains key)), [], w⟩ :=
  performTask_of_exec_eq rfl

lemma perform_size (w : Workspace) :
    w.perform (.task .size) = ⟨.ok (.count w.session.cache.keys.length), [], w⟩ := by
  rw [← Table.size_eq_length_keys]
  exact performTask_of_exec_eq rfl

/-- A known key is answered from the cache, whatever the factory is. -/
lemma perform_getOrCreate_of_find? (h : w.session.cache.find? key = some artifact)
    (factory : Build Artifact) :
    w.perform (.task (.getOrCreate key factory)) = ⟨.ok (.provided artifact false), [], w⟩ := by
  apply performTask_of_exec_eq
  have hfind : w.session.start.cache.find? key = some artifact := h
  rw [Task.build, exec_bind, exec_getOrMake, hfind]
  rfl

/-! ### Steps and runs -/

lemma extends_cache_after (hw : w.Within .noClear) (h : operation.Within .noClear) :
    w.session.cache.Extends (w.after operation).session.cache := by
  cases htask : w.task? operation with
  | some task =>
    have hwithin := within_of_task? Permit.isOpen_noClear hw h htask
    rw [after, perform_of_task? htask]
    exact (Task.within_build Permit.isOpen_noClear hwithin).extends_cache not_false w.session.start
  | none =>
    -- registries and emissions have no way to the cache
    rw [session_after_of_task?_eq_none htask]
    exact .refl _

lemma extends_cache_run (hw : w.Within .noClear)
    (h : ∀ operation ∈ operations, operation.Within .noClear) :
    w.session.cache.Extends (w.run operations).session.cache := by
  induction operations generalizing w with
  | nil => exact .refl _
  | cons first rest ih =>
    rw [List.forall_mem_cons] at h
    have hnext := within_after Permit.isOpen_noClear hw h.1
    exact (extends_cache_after hw h.1).trans (ih hnext h.2)

end Workspace

/-- Cached kernels are stable: after any operations that do not clear the cache, a known key still
has its kernel, so has every other key, and the cache is not smaller. After each of the operations,
a request for the key is answered from the cache: the factory that comes with it has no effect, as
it does not run. -/
theorem cached_of_run {w : Workspace} {operations : List Operation} {key : String}
    {artifact : Artifact} (templates : w.Within .noClear)
    (uncleared : ∀ operation ∈ operations, operation.Within .noClear)
    (cached : w.session.cache.find? key = some artifact) :
    let after := w.run operations
    after.perform (.task (.get key)) = ⟨.ok (.cached (some artifact)), [], after⟩ ∧
      (∀ other kernel, w.session.cache.find? other = some kernel →
        after.perform (.task (.get other)) = ⟨.ok (.cached (some kernel)), [], after⟩ ∧
        after.perform (.task (.has other)) = ⟨.ok (.answer true), [], after⟩) ∧
      (after.perform (.task .size) = ⟨.ok (.count after.session.cache.keys.length), [], after⟩ ∧
        w.session.cache.keys.length ≤ after.session.cache.keys.length) ∧
      ∀ before, before <+: operations → ∀ factory,
        (w.run before).perform (.task (.getOrCreate key factory)) =
          ⟨.ok (.provided artifact false), [], w.run before⟩ := by
  intro after
  have hextends := Workspace.extends_cache_run templates uncleared
  refine ⟨?_, ?_, ⟨after.perform_size, ?_⟩, ?_⟩
  · rw [Workspace.perform_get, hextends key artifact cached]
  · intro other kernel hother
    rw [Workspace.perform_get, Workspace.perform_has, Table.contains, hextends other kernel hother]
    exact ⟨rfl, rfl⟩
  · rw [← Table.size_eq_length_keys, ← Table.size_eq_length_keys]
    exact hextends.size_le
  · -- the key is known after each prefix of the operations
    intro before hbefore factory
    have hknown := Workspace.extends_cache_run templates
      fun operation hmem => uncleared operation (hbefore.subset hmem)
    exact Workspace.perform_getOrCreate_of_find? (hknown key artifact cached) factory

def keptKernel : Artifact := ⟨0, .generate "x" "y" "abs"⟩

/-- A workspace whose cache has a kernel under `k`. -/
def keptWorkspace : Workspace where
  session := { cache := (∅ : Cache).insert "k" keptKernel, nextSerial := 1 }
  registries _ := ∅
  files := ∅

/-- The first factory asks for `a` itself and from there for `k`; the others fail. -/
def nestedOperations : List Operation :=
  [.task (.getOrCreate "a" (Request.Outcome.artifact <$>
      Request.run ⟨"a", "x", "y", "sin", {}, none⟩ [⟨"k", "x", "y", "cos", {}, some "unused"⟩])),
   .task (.getOrCreate "b" (throw (.compile "broken"))),
   .compile ⟨"Abs", ["x"], ["z"], none⟩ none (fun _ => some [8])
     { workgroupSize := some ⟨0, 1, 1⟩ },
   .task (.getOrCreate "k" (throw (.compile "unused")))]

/-- The last request for `k` finds the kernel, and the factory that would fail does not run. -/
theorem cached_of_run_nested :
    let before := keptWorkspace.run (nestedOperations.take 3)
    (keptWorkspace.Within .noClear ∧
        (∀ operation ∈ nestedOperations, operation.Within .noClear) ∧
        keptWorkspace.session.cache.find? "k" = some keptKernel) ∧
      ((keptWorkspace.run nestedOperations).perform (.task (.get "k"))).reply =
        .ok (.cached (some keptKernel)) ∧
      (keptWorkspace.run nestedOperations).session.cache.keys.length = 3 ∧
      before.perform (.task (.getOrCreate "k" (throw (.compile "unused")))) =
        ⟨.ok (.provided keptKernel false), [], before⟩ := by
  intro before
  have htemplates : keptWorkspace.Within .noClear := fun _ => Registry.within_empty
  have hoperations : ∀ operation ∈ nestedOperations, operation.Within .noClear := by
    simp only [nestedOperations, List.forall_mem_cons]
    exact ⟨(Build.Within.request_run Permit.isOpen_noClear _ _).map _, .throw _, trivial, .throw _,
      by simp⟩
  have hcached : keptWorkspace.session.cache.find? "k" = some keptKernel := rfl
  obtain ⟨hget, _, _, hrequest⟩ := cached_of_run htemplates hoperations hcached
  refine ⟨⟨htemplates, hoperations, hcached⟩, ?_, by decide +kernel,
    hrequest _ (List.take_prefix 3 nestedOperations) _⟩
  rw [hget]

end Elementwise
