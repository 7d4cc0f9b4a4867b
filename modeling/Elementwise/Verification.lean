import Elementwise.Inspection
import Elementwise.Kernel

/-!
# Verifying kernels

A kernel text is checked against what is stated about it: the two buffers, the entry point with
its workgroup size, and the function called. Every difference is reported as a problem.
-/

namespace Elementwise

/-- What is stated about a map kernel. -/
structure Signature where
  input : String
  output : String
  entryPoint : String
  workgroupSize : List Number
  function : String
  deriving DecidableEq

/-- What a kernel states about itself. -/
def Kernel.signature (kernel : Kernel) : Signature where
  input := kernel.input
  output := kernel.output
  entryPoint := kernel.entryPoint
  workgroupSize := kernel.workgroupSize.toList
  function := kernel.function

/-- A difference between a kernel text and its signature. -/
inductive Problem where
  | bindingCount (found : Nat)
  | inputBinding (name : String)
  | outputBinding (name : String)
  | entryPointCount (found : Nat)
  | entryPointName (found expected : String)
  | workgroupSize (found expected : List Number)
  | calledFunction (expected : String) (found : List String)
  deriving DecidableEq

def Problem.message : Problem → String
  | .bindingCount found => "expected 2 storage bindings, found " ++ Nat.repr found
  | .inputBinding name => "binding 0 must be a single read-only buffer named '" ++ name ++ "'"
  | .outputBinding name => "binding 1 must be a single writable buffer named '" ++ name ++ "'"
  | .entryPointCount found => "expected 1 compute entry point, found " ++ Nat.repr found
  | .entryPointName found expected =>
    "entry point is '" ++ found ++ "', expected '" ++ expected ++ "'"
  | .workgroupSize found expected =>
    "workgroup size is (" ++ joinNumbers ", " found ++ "), expected (" ++
      joinNumbers ", " expected ++ ")"
  | .calledFunction expected found =>
    "body must call '" ++ expected ++ "' once, found [" ++ ", ".intercalate found ++ "]"

namespace Signature

/-- Whether exactly one binding occupies a slot of the first group, with the given mode and name. -/
def occupies (bindings : List StorageBinding) (slot : Number) (mode : StorageMode)
    (name : String) : Bool :=
  match bindings.filter fun b => b.group.eqv 0 && b.slot.eqv slot with
  | [b] => b.mode == mode && b.name == name
  | _ => false

def bindingProblems (signature : Signature) (bindings : List StorageBinding) : List Problem :=
  (if bindings.length = 2 then [] else [.bindingCount bindings.length]) ++
  (if occupies bindings 0 .read signature.input then [] else [.inputBinding signature.input]) ++
  (if occupies bindings 1 .readWrite signature.output then []
   else [.outputBinding signature.output])

/-- The problems of the entry points. Workgroup sizes are compared as they are written. -/
def entryPointProblems (signature : Signature) (entryPoints : List EntryPoint) : List Problem :=
  match entryPoints with
  | [entry] =>
    let size := entry.workgroupSize.toList
    (if entry.name = signature.entryPoint then []
     else [.entryPointName entry.name signature.entryPoint]) ++
    (if joinNumbers "," size = joinNumbers "," signature.workgroupSize then []
     else [.workgroupSize size signature.workgroupSize])
  | _ => [.entryPointCount entryPoints.length]

def callProblems (signature : Signature) (calls : List String) : List Problem :=
  if calls = [signature.function] then [] else [.calledFunction signature.function calls]

/-- The differences between a signature and the declarations found in a text. -/
def problems (signature : Signature) (found : Inspection) : List Problem :=
  signature.bindingProblems found.bindings ++
  signature.entryPointProblems found.entryPoints ++
  signature.callProblems found.calls

end Signature

/-- The problems of a kernel text under a signature. -/
def verify (code : String) (signature : Signature) : List Problem :=
  signature.problems (inspect code)

/-- The problems of a kernel; a kernel without problems is what it states. -/
def Kernel.problems (kernel : Kernel) : List Problem := verify kernel.code kernel.signature

end Elementwise
