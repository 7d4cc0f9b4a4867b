import Elementwise.Build
import Elementwise.Proofs.Logging

/-!
# Executing builds

`Build.exec` says what a build yields in a state and which state it leaves, with one equation for
each way to compose builds. The main equation is `Build.exec_getOrCreate_issue`: asking for a kernel
under a key takes it from the cache or puts a new one there.
-/

namespace Elementwise

/-! ### Providing a kernel -/

namespace BuildState

/-- The kernel under a key once it was asked for: the cached one, or else a new one. -/
def provided (s : BuildState) (key : String) (kernel : Kernel) : Artifact :=
  (s.cache.find? key).getD ⟨s.nextSerial, kernel⟩

/-- The state once the kernel under a key was asked for. -/
def provide (s : BuildState) (key : String) (kernel : Kernel) : BuildState :=
  match s.cache.find? key with
  | some _ => s
  | none =>
    { cache := s.cache.insert key ⟨s.nextSerial, kernel⟩
      nextSerial := s.nextSerial + 1
      journal := s.journal.record (Build.cacheLogger.say .debug ("Generated " ++ key)) }

end BuildState

/-! ### Equations -/

namespace Build

variable {α β : Type}

/-- What a build yields in a state, and the state it leaves. -/
def exec (action : Build α) (s : BuildState) : Except Failure α × BuildState := action.run.run s

@[simp] lemma exec_pure (a : α) (s : BuildState) : exec (pure a) s = (.ok a, s) := rfl

@[simp] lemma exec_throw (failure : Failure) (s : BuildState) :
    exec (throw failure : Build α) s = (.error failure, s) := rfl

@[simp] lemma exec_emit (event : Event) (s : BuildState) :
    exec (emit event) s = (.ok (), { s with journal := s.journal.record event }) := rfl

@[simp] lemma exec_issue (kernel : Kernel) (s : BuildState) :
    exec (issue kernel) s =
      (.ok ⟨s.nextSerial, kernel⟩, { s with nextSerial := s.nextSerial + 1 }) := rfl

@[simp] lemma exec_ofExcept (x : Except Failure α) (s : BuildState) :
    exec (ofExcept x) s = (x, s) := by
  cases x <;> rfl

lemma exec_bind (x : Build α) (f : α → Build β) (s : BuildState) :
    exec (x >>= f) s =
      match exec x s with
      | (.ok a, s') => exec (f a) s'
      | (.error failure, s') => (.error failure, s') := by
  simp only [exec, ExceptT.run_bind, StateT.run_bind]
  rcases (x.run.run s) with ⟨result, s'⟩
  cases result <;> rfl

lemma exec_bind_of_ok {x : Build α} {s s' : BuildState} {a : α} (h : exec x s = (.ok a, s'))
    (f : α → Build β) : exec (x >>= f) s = exec (f a) s' := by
  rw [exec_bind, h]

lemma exec_bind_of_error {x : Build α} {s s' : BuildState} {failure : Failure}
    (h : exec x s = (.error failure, s')) (f : α → Build β) :
    exec (x >>= f) s = (.error failure, s') := by
  rw [exec_bind, h]

lemma exec_map (f : α → β) (x : Build α) (s : BuildState) :
    exec (f <$> x) s = ((exec x s).1.map f, (exec x s).2) := by
  rw [map_eq_pure_bind, exec_bind]
  rcases exec x s with ⟨result, s'⟩
  cases result <;> rfl

/-- What was done before a failure stays done when the failure is recovered from. -/
lemma exec_tryCatch (x : Build α) (f : Failure → Build α) (s : BuildState) :
    exec (tryCatch x f) s =
      match exec x s with
      | (.ok a, s') => (.ok a, s')
      | (.error failure, s') => exec (f failure) s' := by
  simp only [exec, ExceptT.run_tryCatch, StateT.run_bind]
  rcases (x.run.run s) with ⟨result, s'⟩
  cases result <;> rfl

@[simp] lemma exec_cached? (key : String) (s : BuildState) :
    exec (cached? key) s = (.ok (s.cache.find? key), s) := rfl

@[simp] lemma exec_isCached (key : String) (s : BuildState) :
    exec (isCached key) s = (.ok (s.cache.contains key), s) := rfl

@[simp] lemma exec_cacheSize (s : BuildState) : exec cacheSize s = (.ok s.cache.size, s) := rfl

@[simp] lemma exec_clear (s : BuildState) : exec clear s = (.ok (), { s with cache := ∅ }) := rfl

/-- The factory runs when the key is unknown, and its kernel goes into the cache it leaves. -/
lemma exec_getOrMake (key : String) (factory : Build (Artifact × β)) (s : BuildState) :
    exec (getOrMake key factory) s =
      match s.cache.find? key with
      | some artifact => (.ok (artifact, none), s)
      | none =>
        match exec factory s with
        | (.ok (artifact, report), s') =>
          (.ok (artifact, some report),
            { s' with
              cache := s'.cache.insert key artifact
              journal := s'.journal.record (cacheLogger.say .debug ("Generated " ++ key)) })
        | (.error failure, s') => (.error failure, s') := by
  rw [getOrMake, exec_bind, exec_cached?]
  cases s.cache.find? key with
  | some artifact => rfl
  | none =>
    simp only [exec_bind]
    rcases exec factory s with ⟨result, s'⟩
    cases result <;> rfl

lemma exec_getOrCreate (key : String) (factory : Build Artifact) (s : BuildState) :
    exec (getOrCreate key factory) s =
      match s.cache.find? key with
      | some artifact => (.ok artifact, s)
      | none =>
        match exec factory s with
        | (.ok artifact, s') =>
          (.ok artifact,
            { s' with
              cache := s'.cache.insert key artifact
              journal := s'.journal.record (cacheLogger.say .debug ("Generated " ++ key)) })
        | (.error failure, s') => (.error failure, s') := by
  rw [getOrCreate, exec_bind, exec_getOrMake]
  cases s.cache.find? key with
  | some artifact => rfl
  | none =>
    rw [exec_bind]
    rcases exec factory s with ⟨result, s'⟩
    cases result <;> rfl

lemma exec_getOrCreate_issue (key : String) (kernel : Kernel) (s : BuildState) :
    exec (getOrCreate key (issue kernel)) s =
      (.ok (s.provided key kernel), s.provide key kernel) := by
  rw [getOrCreate, exec_bind, exec_getOrMake, BuildState.provided, BuildState.provide]
  cases s.cache.find? key with
  | some artifact => rfl
  | none => rfl

end Build

end Elementwise
