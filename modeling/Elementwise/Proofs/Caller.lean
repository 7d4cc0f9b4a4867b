import Elementwise.Proofs.Compilation

/-!
# Builds of callers

Factories and templates are builds that callers bring along. `Build.Within` is the class of builds
made from what the library offers: they end, fail and recover from failures, look at the cache and
ask it for kernels with factories of the same class, to any depth. A permit says what they may log,
whether they may clear the cache, and which kernels they may put under a key.
-/

namespace Elementwise

namespace Build

/-- What builds may do beside generating kernels and looking at the cache. -/
structure Permit where
  event : Event → Prop
  clear : Prop
  /-- The kernels that may be put under a key. -/
  kernel : String → Kernel → Prop

namespace Permit

/-- The permit allows every line that follows the level. -/
def AllowsLog (permit : Permit) : Prop := ∀ event, event.FollowsLevel → permit.event event

/-- The permit allows what the map template puts into the cache. -/
def AllowsMaps (permit : Permit) (options : KernelOptions) : Prop :=
  ∀ r : Recipe, r.options = options → permit.kernel r.key r.kernel

/-- The permit allows every line that follows the level and every kernel. -/
structure IsOpen (permit : Permit) : Prop where
  log : permit.AllowsLog
  kernel : ∀ key kernel, permit.kernel key kernel

lemma IsOpen.maps {permit : Permit} (h : permit.IsOpen) (options : KernelOptions) :
    permit.AllowsMaps options :=
  fun r _ => h.kernel r.key r.kernel

end Permit

/-- The build is made from what the library offers and keeps within the permit. -/
inductive Within (permit : Permit) : {α : Type} → Build α → Prop where
  | pure {α : Type} (a : α) : Within permit (Pure.pure a : Build α)
  | throw {α : Type} (failure : Failure) : Within permit (throw failure : Build α)
  | bind {α β : Type} {x : Build α} {f : α → Build β} (hx : Within permit x)
      (hf : ∀ a, Within permit (f a)) : Within permit (x >>= f)
  | recover {α : Type} {x : Build α} {f : Failure → Build α} (hx : Within permit x)
      (hf : ∀ failure, Within permit (f failure)) : Within permit (tryCatch x f)
  | emit {event : Event} (h : permit.event event) : Within permit (Build.emit event)
  | issue (kernel : Kernel) : Within permit (Build.issue kernel)
  | cached? (key : String) : Within permit (Build.cached? key)
  | isCached (key : String) : Within permit (Build.isCached key)
  | cacheSize : Within permit Build.cacheSize
  | clear (h : permit.clear) : Within permit Build.clear
  | getOrMake {β : Type} {key : String} {factory : Build (Artifact × β)}
      (h : Within permit factory)
      (hkernel : ∀ {s s' made}, exec factory s = (.ok made, s') →
        permit.kernel key made.1.kernel) :
      Within permit (Build.getOrMake key factory)

variable {permit : Permit} {α β : Type}

/-! ### What builds leave behind -/

/-- `R` relates the states before and after each single thing that builds within the permit do. A
factory runs between the look-up and the store, so what is known there is that the key was unknown
before the factory ran. -/
structure Permit.Bounds (permit : Permit) (R : BuildState → BuildState → Prop) : Prop where
  refl : ∀ s, R s s
  trans : ∀ {s s' s''}, R s s' → R s' s'' → R s s''
  emit : ∀ {event}, permit.event event → ∀ s, R s { s with journal := s.journal.record event }
  issue : ∀ s, R s { s with nextSerial := s.nextSerial + 1 }
  clear : permit.clear → ∀ s, R s { s with cache := ∅ }
  store : ∀ {key s s'} {artifact : Artifact}, s.cache.find? key = none →
    permit.kernel key artifact.kernel → R s s' →
    R s { s' with
      cache := s'.cache.insert key artifact
      journal := s'.journal.record (cacheLogger.say .debug ("Generated " ++ key)) }

namespace Within

/-- What holds of each single thing holds of the whole build, down to the factories inside of
factories. -/
lemma bounds {R : BuildState → BuildState → Prop} (hR : permit.Bounds R) {action : Build α}
    (h : Within permit action) (s : BuildState) : R s (exec action s).2 := by
  induction h generalizing s with
  | pure a => exact hR.refl s
  | throw failure => exact hR.refl s
  | @bind _ _ x f _ _ ihx ihf =>
    have hx := ihx s
    rw [exec_bind]
    rcases hexec : exec x s with ⟨result, s'⟩
    rw [hexec] at hx
    cases result with
    | error failure => exact hx
    | ok a => exact hR.trans hx (ihf a s')
  | @recover _ x f _ _ ihx ihf =>
    have hx := ihx s
    rw [exec_tryCatch]
    rcases hexec : exec x s with ⟨result, s'⟩
    rw [hexec] at hx
    cases result with
    | error failure => exact hR.trans hx (ihf failure s')
    | ok a => exact hx
  | emit h => exact hR.emit h s
  | issue kernel => exact hR.issue s
  | cached? key => exact hR.refl s
  | isCached key => exact hR.refl s
  | cacheSize => exact hR.refl s
  | clear h => exact hR.clear h s
  | @getOrMake _ key factory _ hkernel ih =>
    have hfactory := ih s
    rw [exec_getOrMake]
    cases hfind : s.cache.find? key with
    | some artifact => exact hR.refl s
    | none =>
      rcases hexec : exec factory s with ⟨result, s'⟩
      rw [hexec] at hfactory
      cases result with
      | error failure => exact hfactory
      | ok made =>
        -- the factory may have stored under the same key meanwhile; the key was unknown before it
        exact hR.store hfind (hkernel hexec) hfactory

/-- Without clearing, what is cached stays cached. -/
lemma extends_cache (hclear : ¬ permit.clear) {action : Build α} (h : Within permit action)
    (s : BuildState) : s.cache.Extends (exec action s).2.cache := by
  have hR : permit.Bounds fun s s' => s.cache.Extends s'.cache :=
    { refl := fun s => .refl s.cache
      trans := .trans
      emit := fun _ s => .refl s.cache
      issue := fun s => .refl s.cache
      clear := fun h => absurd h hclear
      store := fun hfind _ hextends => hextends.insert hfind }
  exact h.bounds hR s

/-- A cache of permitted kernels stays one, also when the build fails. -/
lemma kernel_of_find? {action : Build α} (h : Within permit action) {s : BuildState}
    (hcache : ∀ key artifact, s.cache.find? key = some artifact →
      permit.kernel key artifact.kernel) :
    ∀ key artifact, (exec action s).2.cache.find? key = some artifact →
      permit.kernel key artifact.kernel := by
  have hR : permit.Bounds fun s s' =>
      (∀ key artifact, s.cache.find? key = some artifact → permit.kernel key artifact.kernel) →
        ∀ key artifact, s'.cache.find? key = some artifact → permit.kernel key artifact.kernel :=
    { refl := fun _ h => h
      trans := fun h h' => h' ∘ h
      emit := fun _ _ h => h
      issue := fun _ h => h
      clear := fun _ _ _ key artifact hfind => by cases hfind
      store := by
        intro key s s' artifact _ hkernel hkept hs other found hfind
        rw [Table.find?_insert] at hfind
        split at hfind
        · rename_i hother
          cases hfind
          exact hother ▸ hkernel
        · exact hkept hs other found hfind }
  exact h.bounds hR s hcache

/-! ### The builds of the library -/

lemma ofExcept (x : Except Failure α) : Within permit (ofExcept x : Build α) := by
  cases x with
  | ok a => exact .pure a
  | error failure => exact .throw failure

lemma map {x : Build α} (h : Within permit x) (f : α → β) : Within permit (f <$> x) := by
  rw [map_eq_pure_bind]
  exact h.bind fun a => .pure (f a)

/-- What a factory makes is what it makes together with a report. -/
lemma kernel_of_report {key : String} {factory : Build Artifact}
    (hkernel : ∀ {s s' artifact}, exec factory s = (.ok artifact, s') →
      permit.kernel key artifact.kernel) {report : β} {s s' : BuildState} {made : Artifact × β}
    (hexec : exec (do return (← factory, report)) s = (.ok made, s')) :
    permit.kernel key made.1.kernel := by
  rw [exec_bind] at hexec
  rcases hfactory : exec factory s with ⟨result, s''⟩
  rw [hfactory] at hexec
  cases result with
  | error failure => cases hexec
  | ok artifact =>
    cases hexec
    exact hkernel hfactory

lemma getOrCreate {key : String} {factory : Build Artifact} (h : Within permit factory)
    (hkernel : ∀ {s s' artifact}, exec factory s = (.ok artifact, s') →
      permit.kernel key artifact.kernel) :
    Within permit (Build.getOrCreate key factory) :=
  (Within.getOrMake (h.bind fun artifact => .pure (artifact, ()))
    (kernel_of_report hkernel)).bind fun made => .pure made.1

lemma request_perform (hopen : permit.IsOpen) (request : Request) {further : Build (List Artifact)}
    (h : Within permit further) : Within permit (request.perform further) := by
  refine (Within.getOrMake ?_ fun _ => hopen.kernel _ _).bind fun _ => .pure _
  have hmake : Within permit (do
      let inner ← further
      let artifact ← Build.issue
        (.generate request.input request.output request.function request.options)
      return (artifact, inner)) :=
    h.bind fun _ => (Within.issue _).bind fun _ => .pure _
  cases request.refusal with
  | none => exact hmake
  | some reason => exact (Within.throw _).bind fun _ => hmake

/-- A chain of requests, however long, keeps within every open permit. -/
lemma request_run (hopen : permit.IsOpen) (request : Request) (inside : List Request) :
    Within permit (request.run inside) := by
  induction inside generalizing request with
  | nil => exact request_perform hopen request (.pure [])
  | cons next inside ih => exact request_perform hopen request ((ih next).bind fun _ => .pure _)

/-- What the map template does once the kernel is there. -/
lemma dispatch (hlog : permit.AllowsLog) (function input output : String) (length : Number)
    (options : KernelOptions) (artifact : Artifact) :
    Within permit (do
      let lanes ← MonadExcept.ofExcept (vectorLanes options.layout.elementType)
      let dispatch ← MonadExcept.ofExcept (mapDispatch length lanes options.workgroupSize)
      if maxWorkgroupsPerDimension.lt dispatch.x then
        Build.emit (limitWarning function input output dispatch.x)
      return (⟨artifact, dispatch⟩ : Compiled)) := by
  refine (ofExcept _).bind fun lanes => (ofExcept _).bind fun dispatch => ?_
  split
  · exact (Within.emit (hlog (limitWarning _ _ _ _) rfl)).bind fun _ => .pure _
  · exact .pure _

lemma lowerMap (hlog : permit.AllowsLog) {options : KernelOptions}
    (hmaps : permit.AllowsMaps options) (context : LoweringContext) :
    Within permit (lowerMap context options) := by
  rw [Elementwise.lowerMap]
  split
  · rename_i input _ output _ length _ _ _ _
    have hkernel : ∀ {s s' artifact}, exec (Build.issue
        (.generate input output (shaderFunction context.node.op) options)) s = (.ok artifact, s') →
        permit.kernel (Kernel.key input output (shaderFunction context.node.op) options)
          artifact.kernel := by
      intro s s' artifact hexec
      cases hexec
      exact hmaps ⟨input, output, shaderFunction context.node.op, options⟩ rfl
    refine (getOrCreate (.issue _) hkernel).bind fun artifact => ?_
    split
    · exact (Within.emit (hlog (aliasingWarning _ _) rfl)).bind fun _ => dispatch hlog ..
    · exact dispatch hlog ..
  · exact .throw _

/-- A compilation keeps within a permit when the templates it may use do. -/
lemma compile {τ : Type} {node : Node} {lower : τ → Template} {registry : Registry τ}
    {options : KernelOptions} (hlog : permit.AllowsLog)
    (hlower : ∀ template, registry.find? node.op = some template →
      ∀ context, Within permit (lower template context options))
    (shapes : ShapeTable) : Within permit (node.compile lower registry shapes options) := by
  refine (ofExcept _).bind fun inputDims => (ofExcept _).bind fun outputDims => ?_
  cases hfind : registry.find? node.op with
  | none => exact .throw _
  | some template =>
    exact (hlower template hfind _).bind fun compiled =>
      (Within.emit (hlog (compiledNote _ _) rfl)).bind fun _ => .pure compiled

end Within

end Build

end Elementwise
