import Elementwise.Proofs.Caller
import Elementwise.Proofs.Session

/-!
# Workspaces

A caller asks a workspace for one operation after the other: tasks of the compiler and the cache,
tasks of a registry, and emissions. What an operation does with the cache is a task of the session.
Operations keep the templates of a workspace within a permit when those they register are.
-/

namespace Elementwise

open Build

/-! ### Runs -/

namespace Workspace

def after (w : Workspace) (operation : Operation) : Workspace := (w.perform operation).workspace

def run (w : Workspace) (operations : List Operation) : Workspace := operations.foldl after w

/-- Some operations, each with the reply to it. -/
def history (w : Workspace) (operations : List Operation) :
    List (Operation × Except Failure Reply) :=
  historyOf after (fun w operation => (w.perform operation).reply) w operations

/-- The entries logged by some operations. -/
def log (w : Workspace) (operations : List Operation) : List LogEntry :=
  (historyOf after (fun w operation => (w.perform operation).entries) w operations).flatMap Prod.snd

/-- The task that an operation asks of the session, if it does. -/
def task? (w : Workspace) : Operation → Option (Task Template)
  | .compile node name shapes choices => some (.compile node id (w.registry name) shapes choices)
  | .task task => some task
  | _ => none

/-- Tasks are carried out by the session alone. -/
lemma perform_of_task? {w : Workspace} {operation : Operation} {task : Task Template}
    (h : w.task? operation = some task) : w.perform operation = w.performTask task := by
  cases operation <;> cases h <;> rfl

/-- Everything else leaves the session as it was. -/
lemma session_after_of_task?_eq_none {w : Workspace} {operation : Operation}
    (h : w.task? operation = none) : (w.after operation).session = w.session := by
  cases operation with
  | compile node name shapes choices => cases h
  | task task => cases h
  | registry name task => rfl
  | emit directory workgroupSize =>
    rw [after, perform, Session.emit]
    cases emitKernels w.session.log directory workgroupSize w.files with
    | error failure => rfl
    | ok emission => rfl

/-- A run of tasks is a run of the session. -/
lemma run_map_task (w : Workspace) (tasks : List (Task Template)) :
    w.run (tasks.map .task) = { w with session := w.session.run tasks } := by
  induction tasks generalizing w with
  | nil => rfl
  | cons task tasks ih => exact ih _

end Workspace

/-! ### Permits -/

/-- The templates of a registry keep within a permit. -/
def Registry.Within (permit : Permit) (registry : Registry Template) : Prop :=
  ∀ op template, registry.find? op = some template →
    ∀ context options, Build.Within permit (template context options)

/-- The templates of all registries keep within a permit. -/
def Workspace.Within (permit : Permit) (w : Workspace) : Prop :=
  ∀ name, (w.registries name).Within permit

/-- What a task brings along keeps within a permit. -/
def Task.Within (permit : Permit) : Task Template → Prop
  | .compile _ lowering registry _ _ =>
    ∀ op template, registry.find? op = some template →
      ∀ context options, Build.Within permit (lowering template context options)
  | .clear => permit.clear
  | .getOrCreate _ factory => Build.Within permit factory
  | _ => True

/-- What an operation brings along keeps within a permit. -/
def Operation.Within (permit : Permit) : Operation → Prop
  | .task asked => asked.Within permit
  | .registry _ (.register _ template) =>
    ∀ context options, Build.Within permit (template context options)
  | _ => True

namespace Registry

variable {permit : Permit} {registry : Registry Template}

lemma within_empty : Registry.Within permit ∅ := by
  intro op template h
  cases h

lemma Within.insert (h : registry.Within permit) {template : Template}
    (htemplate : ∀ context options, Build.Within permit (template context options))
    (op : String) : Registry.Within permit (registry.insert op template) := by
  intro other found hfind
  rw [Table.find?_insert] at hfind
  split at hfind
  · cases hfind
    exact htemplate
  · exact h other found hfind

lemma Within.registerMaps (hopen : permit.IsOpen) (h : registry.Within permit) :
    (registry.registerMaps lowerMap).Within permit := by
  have hmap : ∀ context options, Build.Within permit (lowerMap context options) :=
    fun context options => .lowerMap hopen.log (hopen.maps options) context
  rw [Registry.registerMaps]
  induction mapOperatorNames generalizing registry with
  | nil => exact h
  | cons op rest ih => exact ih (h.insert hmap op)

lemma within_builtin (hopen : permit.IsOpen) : (Registry.builtin lowerMap).Within permit :=
  within_empty.registerMaps hopen

end Registry

section

variable {permit : Permit} {w : Workspace} {operation : Operation}

/-- The build of a task keeps within the permit. -/
lemma Task.within_build (hopen : permit.IsOpen) {task : Task Template} (h : task.Within permit) :
    Build.Within permit task.build := by
  cases task with
  | compile node lowering registry shapes choices =>
    exact (Build.Within.compile hopen.log
      (fun template hfind context => h node.op template hfind context _) shapes).map _
  | lower context choices =>
    exact (Build.Within.lowerMap hopen.log (hopen.maps _) context).map _
  | get key => exact (Build.Within.cached? key).map _
  | has key => exact (Build.Within.isCached key).map _
  | size => exact Build.Within.cacheSize.map _
  | clear => exact (Build.Within.clear h).bind fun _ => .pure _
  | getOrCreate key factory =>
    have hfactory : Build.Within permit factory := h
    exact (Build.Within.getOrMake (hfactory.bind fun _ => .pure _)
      fun _ => hopen.kernel _ _).bind fun _ => .pure _

/-- A compilation of the workspace has its templates from a registry of the workspace. -/
lemma Workspace.within_of_task? (hopen : permit.IsOpen) (hw : w.Within permit)
    (h : operation.Within permit) {task : Task Template} (htask : w.task? operation = some task) :
    task.Within permit := by
  cases operation with
  | compile node name shapes choices =>
    cases htask
    have hregistry : (w.registry name).Within permit := by
      cases name with
      | none => exact Registry.within_builtin hopen
      | some name => exact hw name
    exact hregistry
  | task task =>
    cases htask
    exact h
  | registry name task => cases htask
  | emit directory workgroupSize => cases htask

/-- The templates of a workspace stay within a permit. -/
lemma Workspace.within_after (hopen : permit.IsOpen) (hw : w.Within permit)
    (h : operation.Within permit) : (w.after operation).Within permit := by
  cases operation with
  | compile node name shapes choices => exact hw
  | task task => exact hw
  | emit directory workgroupSize =>
    rw [after, perform]
    split <;> exact hw
  | registry name task =>
    have hregistry := hw name
    have htask : (task.carryOut (w.registries name)).2.Within permit := by
      cases task with
      | create builtin =>
        cases builtin with
        | false => exact Registry.within_empty
        | true => exact Registry.within_builtin hopen
      | register op template => exact hregistry.insert h op
      | registerMaps => exact hregistry.registerMaps hopen
      | find op => exact hregistry
      | has op => exact hregistry
      | operators => exact hregistry
    -- only the registry of that name has changed
    intro other
    by_cases hname : other = name
    · simpa [after, perform, setRegistry, hname] using htask
    · simpa [after, perform, setRegistry, hname] using hw other

end

end Elementwise
