import Elementwise.Compilation
import Elementwise.Emission

/-!
# Sessions and workspaces

A session keeps the cache and the log settings between steps. Each step is carried out on a journal
of its own, whose entries are the entries the step logs. A workspace is a session together with the
registries of templates and the files it works on; what it does with the cache it does through its
session.
-/

namespace Elementwise

structure Session where
  cache : Cache := ∅
  nextSerial : Nat := 0
  log : LogSettings := {}

/-- The outcome of a step: its result, the entries logged, and the session after it. -/
structure Step (α : Type) where
  result : Except Failure α
  entries : List LogEntry
  session : Session

namespace Session

/-- What a build of this session starts from. -/
def start (session : Session) : BuildState where
  cache := session.cache
  nextSerial := session.nextSerial
  journal := { settings := session.log }

/-- Carry out a build. What it did before failing stays done. -/
def build {α : Type} (session : Session) (action : Build α) : Step α :=
  let (result, after) := action.run.run session.start
  { result
    entries := after.journal.entries
    session :=
      { cache := after.cache, nextSerial := after.nextSerial, log := after.journal.settings } }

def emit (session : Session) (directory : String) (workgroupSize : Extent) (files : Files) :
    Step Emission :=
  match emitKernels session.log directory workgroupSize files with
  | .error failure => { result := .error failure, entries := [], session }
  | .ok emission => { result := .ok emission, entries := emission.journal.entries, session }

/-- Let a logger offer a line. -/
def offer (session : Session) (logger : Logger) (severity : Severity) (items : List Value) :
    Step Unit :=
  let journal : Journal := { settings := session.log }
  { result := .ok ()
    entries := (journal.record (.offer logger severity items)).entries
    session }

end Session

/-! ### Tasks -/

/-- What is asked of the compiler and of the cache. -/
inductive Task (τ : Type) where
  | compile (node : Node) (lowering : τ → Template) (registry : Registry τ) (shapes : ShapeTable)
      (choices : KernelOptions.Choices)
  | lower (context : LoweringContext) (choices : KernelOptions.Choices)
  | get (key : String)
  | has (key : String)
  | size
  | clear
  | getOrCreate (key : String) (factory : Build Artifact)

inductive Reply where
  | done
  | compiled (compiled : Compiled)
  | cached (artifact : Option Artifact)
  | answer (holds : Bool)
  | count (n : Nat)
  /-- A kernel asked for under a key, and whether the factory that came with the key ran. -/
  | provided (artifact : Artifact) (factoryRan : Bool)
  | template (template : Option Template)
  | operators (names : List String)
  | emitted (written failed : List String)

def Task.build {τ : Type} : Task τ → Build Reply
  | .compile node lowering registry shapes choices =>
    Reply.compiled <$> node.compile lowering registry shapes choices.complete
  | .lower context choices => Reply.compiled <$> lowerMap context choices.complete
  | .get key => Reply.cached <$> Build.cached? key
  | .has key => Reply.answer <$> Build.isCached key
  | .size => Reply.count <$> Build.cacheSize
  | .clear => do
    Build.clear
    return .done
  | .getOrCreate key factory => do
    let (artifact, report) ← Build.getOrMake key do return (← factory, ())
    return .provided artifact report.isSome

def Session.perform {τ : Type} (session : Session) (task : Task τ) : Step Reply :=
  session.build task.build

/-! ### Workspaces -/

inductive RegistryTask where
  | create (builtin : Bool)
  | register (op : String) (template : Template)
  | registerMaps
  | find (op : String)
  | has (op : String)
  | operators

/-- What comes of a task of a registry, and the registry after it. -/
def RegistryTask.carryOut (registry : Registry Template) :
    RegistryTask → Reply × Registry Template
  | .create builtin => (.done, if builtin then Registry.builtin lowerMap else ∅)
  | .register op template => (.done, registry.insert op template)
  | .registerMaps => (.done, registry.registerMaps lowerMap)
  | .find op => (.template (registry.find? op), registry)
  | .has op => (.answer (registry.contains op), registry)
  | .operators => (.operators registry.keys, registry)

/-- What is asked of a workspace. A node is compiled with a registry of the workspace, or with the
registry of the built-in operators; a task brings its registry along. -/
inductive Operation where
  | compile (node : Node) (registry : Option String) (shapes : ShapeTable)
      (choices : KernelOptions.Choices)
  | task (task : Task Template)
  | registry (name : String) (task : RegistryTask)
  | emit (directory : String) (workgroupSize : Extent)

structure Workspace where
  session : Session
  registries : String → Registry Template
  files : Files

/-- The outcome of an operation: the reply, the entries logged, and the workspace after it. -/
structure Workspace.Outcome where
  reply : Except Failure Reply
  entries : List LogEntry
  workspace : Workspace

namespace Workspace

/-- The registry of the given name, or the registry of the built-in operators. -/
def registry (w : Workspace) (name : Option String) : Registry Template :=
  (name.map w.registries).getD (Registry.builtin lowerMap)

def setRegistry (w : Workspace) (name : String) (registry : Registry Template) : Workspace :=
  { w with registries := fun other => if other = name then registry else w.registries other }

def performTask (w : Workspace) (task : Task Template) : Outcome :=
  let step := w.session.perform task
  ⟨step.result, step.entries, { w with session := step.session }⟩

def perform (w : Workspace) : Operation → Outcome
  | .compile node name shapes choices =>
    w.performTask (.compile node id (w.registry name) shapes choices)
  | .task task => w.performTask task
  | .registry name task =>
    let (reply, registry) := task.carryOut (w.registries name)
    ⟨.ok reply, [], w.setRegistry name registry⟩
  | .emit directory workgroupSize =>
    let step := w.session.emit directory workgroupSize w.files
    match step.result with
    | .ok emission =>
      ⟨.ok (.emitted emission.written emission.failed), step.entries,
        { w with session := step.session, files := emission.files }⟩
    | .error failure => ⟨.error failure, step.entries, { w with session := step.session }⟩

end Workspace

end Elementwise
