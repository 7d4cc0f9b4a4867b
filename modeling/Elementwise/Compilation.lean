import Elementwise.Build
import Elementwise.Kernel
import Elementwise.Operator

/-!
# Compiling graph nodes

A node of an operator graph is resolved against the table of shapes and handed to the template
registered for its operator. The template for map operators takes its kernel from the cache and
computes the dispatch size.
-/

namespace Elementwise

structure Node where
  op : String
  inputs : List String
  outputs : List String
  name : Option String := none

/-- The dimensions of the values of a graph. -/
def ShapeTable := String → Option (List Number)

/-- The table of a list of entries. A later entry for a value wins, and an entry without dimensions
counts as none. -/
def ShapeTable.ofEntries (entries : List (String × Option (List Number))) : ShapeTable :=
  fun name => (entries.reverse.lookup name).join

/-- A node with cleaned names and resolved shapes. -/
structure LoweringContext where
  node : Node
  inputs : List String
  outputs : List String
  inputDims : List (List Number)
  outputDims : List (List Number)
  inputLengths : List Number
  outputLengths : List Number

structure Compiled where
  artifact : Artifact
  dispatch : Extent

/-- A template turns a resolved node into a kernel. -/
abbrev Template := LoweringContext → KernelOptions → Build Compiled

def mapLogger : Logger := { part := "Map-Kernel" }

/-- The warning about a kernel that writes the buffer it reads. -/
def aliasingWarning (label input : String) : Event :=
  mapLogger.say .warn
    ("'" ++ label ++ "' reads and writes buffer '" ++ input ++ "'; invocation order is undefined")

def limitWarning (function input output : String) (workgroups : Number) : Event :=
  mapLogger.say .warn
    (function ++ " " ++ input ++ " -> " ++ output ++ ": " ++ workgroups.text ++
      " workgroups exceed the default per-dimension limit of " ++ maxWorkgroupsPerDimension.text)

/-- The map template between the first input and the first output. -/
def lowerMapBetween (node : Node) (input output : String) (length : Number)
    (options : KernelOptions) : Build Compiled := do
  let function := shaderFunction node.op
  let artifact ← Build.getOrCreate (Kernel.key input output function options)
    (Build.issue (.generate input output function options))
  if artifact.kernel.inputBinding.aliases artifact.kernel.outputBinding then
    Build.emit (aliasingWarning (node.name.getD output) input)
  let lanes ← ofExcept (vectorLanes options.layout.elementType)
  let dispatch ← ofExcept (mapDispatch length lanes options.workgroupSize)
  if maxWorkgroupsPerDimension.lt dispatch.x then
    Build.emit (limitWarning function input output dispatch.x)
  return ⟨artifact, dispatch⟩

/-- The template for map operators. Inputs and outputs after the first are ignored. -/
def lowerMap : Template := fun context options =>
  match context.inputs, context.outputs, context.outputLengths with
  | input :: _, output :: _, length :: _ =>
    lowerMapBetween context.node input output length options
  | _, _, _ => throw (.arity context.node.op)

def resolveDims (shapes : ShapeTable) (names : List String) : Except Failure (List (List Number)) :=
  names.mapM fun name =>
    match shapes name with
    | some dims => .ok dims
    | none => .error (.shapeNotFound name)

def compilerLogger : Logger := { part := "Kernel-Compiler" }

def compiledNote (context : LoweringContext) (dispatch : Extent) : Event :=
  compilerLogger.say .debug
    (context.node.op ++ " " ++ ",".intercalate context.inputs ++ " -> " ++
      ",".intercalate context.outputs ++ " dispatch [" ++ joinNumbers ", " dispatch.toList ++ "]")

def Node.context (node : Node) (inputDims outputDims : List (List Number)) : LoweringContext where
  node := node
  inputs := node.inputs.map sanitize
  outputs := node.outputs.map sanitize
  inputDims := inputDims
  outputDims := outputDims
  inputLengths := inputDims.map elementCount
  outputLengths := outputDims.map elementCount

/-- Compile a node with the template registered for its operator; `lower` says what the templates
of the registry do. -/
def Node.compile {τ : Type} (node : Node) (lower : τ → Template) (registry : Registry τ)
    (shapes : ShapeTable) (options : KernelOptions) : Build Compiled := do
  let inputDims ← ofExcept (resolveDims shapes node.inputs)
  let outputDims ← ofExcept (resolveDims shapes node.outputs)
  match registry.find? node.op with
  | none => throw (.unsupportedOperator node.op)
  | some template =>
    let context := node.context inputDims outputDims
    let compiled ← lower template context options
    Build.emit (compiledNote context compiled.dispatch)
    return compiled

end Elementwise
