import Elementwise.Extent
import Elementwise.Layout
import Elementwise.Text

/-!
# Map kernels

A map kernel reads vectors from one storage buffer, applies a shader function to each, and writes
the results to another buffer. `Kernel.generate` writes its text. The key of a map kernel lists
everything its text is made from, texts being quoted, so that no choice of names can make two lists
look alike.
-/

namespace Elementwise

/-- What may be chosen about a map kernel beside its buffers and its function. -/
structure KernelOptions where
  workgroupSize : Extent := Extent.unit
  layout : Layout := {}
  entryPoint : String := "main"

/-- Explicit choices about a map kernel, each of which may be left out. -/
structure KernelOptions.Choices where
  workgroupSize : Option Extent := none
  layout : Option Layout := none
  entryPoint : Option String := none

/-- The options that result from choices, those left out being taken from the defaults. -/
def KernelOptions.Choices.complete (choices : Choices) : KernelOptions :=
  let defaults : KernelOptions := {}
  { workgroupSize := choices.workgroupSize.getD defaults.workgroupSize
    layout := choices.layout.getD defaults.layout
    entryPoint := choices.entryPoint.getD defaults.entryPoint }

inductive Access where
  | read
  | write
  deriving DecidableEq

/-- A buffer bound to a slot of a kernel. -/
structure BufferBinding where
  group : Nat
  slot : Nat
  name : String
  access : Access
  deriving DecidableEq

/-- Whether two bindings refer to the same buffer. -/
def BufferBinding.aliases (a b : BufferBinding) : Bool := a.name == b.name

/-- A generated map kernel: its text and what the text was made from. -/
structure Kernel where
  code : String
  entryPoint : String
  workgroupSize : Extent
  input : String
  output : String
  function : String
  layout : Layout

namespace Kernel

def inputBinding (kernel : Kernel) : BufferBinding := ⟨0, 0, kernel.input, .read⟩

def outputBinding (kernel : Kernel) : BufferBinding := ⟨0, 1, kernel.output, .write⟩

/-- The bindings of a kernel in the order of their slots. -/
def bindings (kernel : Kernel) : List BufferBinding := [kernel.inputBinding, kernel.outputBinding]

def bufferLine (slot mode name structName : String) : String :=
  "@group(0) @binding(" ++ slot ++ ") var<storage, " ++ mode ++ "> " ++ name ++ ": " ++
    structName ++ ";"

def attributeLine (size : Extent) : String :=
  "@compute @workgroup_size(" ++ joinNumbers ", " size.toList ++ ")"

def headLine (entryPoint : String) : String :=
  "fn " ++ entryPoint ++ "(@builtin(global_invocation_id) global_id: vec3<u32>) \x7b"

/-- The assignment that computes one vector. -/
def assignmentLine (input output function field : String) : String :=
  "    " ++ output ++ "." ++ field ++ "[gidx] = " ++ function ++ "(" ++ input ++ "." ++ field ++
    "[gidx]);"

def lines (input output function : String) (options : KernelOptions) : List String :=
  options.layout.structLines ++
  ["",
   bufferLine "0" "read" input options.layout.structName,
   bufferLine "1" "read_write" output options.layout.structName,
   "",
   attributeLine options.workgroupSize,
   headLine options.entryPoint,
   "    let gidx = global_id.x;",
   assignmentLine input output function options.layout.fieldName,
   "\x7d",
   ""]

/-- The map kernel that applies `function` to the vectors of `input`. -/
def generate (input output function : String) (options : KernelOptions := {}) : Kernel where
  code := "\n".intercalate (lines input output function options)
  entryPoint := options.entryPoint
  workgroupSize := options.workgroupSize
  input := input
  output := output
  function := function
  layout := options.layout

end Kernel

/-! ### Keys -/

/-- A number in a key. Numbers that are not finite share one mark. -/
def Number.keyText (a : Number) : String :=
  match a with
  | .nan => "null"
  | .infinity _ => "null"
  | a => a.text

def quotedText (text : String) : String := String.ofList (Text.Quoted.encode text.toList)

def bracketed (items : List String) : String := "[" ++ ",".intercalate items ++ "]"

/-- The key under which a map kernel is cached. -/
def Kernel.key (input output function : String) (options : KernelOptions := {}) : String :=
  "map:" ++ bracketed
    [quotedText function,
     quotedText input,
     quotedText output,
     bracketed (options.workgroupSize.toList.map Number.keyText),
     quotedText options.layout.structName,
     quotedText options.layout.fieldName,
     quotedText options.layout.elementType,
     options.layout.version.keyText,
     quotedText options.entryPoint]

end Elementwise
