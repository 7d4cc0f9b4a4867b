import Elementwise.Logging
import Elementwise.Operator
import Elementwise.Table
import Elementwise.Verification

/-!
# Emitting kernels

One file is written for each built-in operator, provided that its kernel has no problems. Paths are
texts with segments between slashes. Normal paths have no empty segments, no dots, and a double dot
only at the start of a relative path.
-/

namespace Elementwise

/-! ### Paths -/

namespace Path

def isAbsolute (path : String) : Bool := path.toList.head? == some '/'

/-- Add a segment to a reversed list of normal segments. -/
def addSegment (absolute : Bool) (reversed : List String) (segment : String) : List String :=
  if segment = "" ∨ segment = "." then reversed
  else if segment = ".." then
    match reversed with
    | [] => if absolute then [] else [".."]
    | last :: rest => if last = ".." then ".." :: reversed else rest
  else segment :: reversed

def segments (path : String) : List String :=
  let parts := (path.toList.splitOn '/').map String.ofList
  (parts.foldl (addSegment (isAbsolute path)) []).reverse

/-- The normal form of a path, without a slash at the end. -/
def normalize (path : String) : String :=
  let body := "/".intercalate (segments path)
  if isAbsolute path then "/" ++ body
  else if body.isEmpty then "."
  else body

def join (directory file : String) : String :=
  normalize (if directory.isEmpty then file else directory ++ "/" ++ file)

/-- The path as seen from the working directory. -/
def resolve (workingDirectory path : String) : String :=
  normalize (if isAbsolute path then path else workingDirectory ++ "/" ++ path)

end Path

/-! ### Emission -/

abbrev Files := Table String

/-- An emission under way or done: the files, the paths written, the operators that failed, and the
journal. -/
structure Emission where
  files : Files
  written : List String := []
  failed : List String := []
  journal : Journal := {}

namespace Emission

def logger : Logger := { part := "Kernel-Emitter" }

def kernel (op : String) (workgroupSize : Extent) : Kernel :=
  .generate "input_0" "output_0" (shaderFunction op) { workgroupSize }

def filePath (directory op : String) : String :=
  Path.join directory (shaderFunction op ++ ".wgsl")

/-- Write the file for an operator, or report the problems of its kernel. -/
def addOperator (directory : String) (workgroupSize : Extent) (emission : Emission)
    (op : String) : Emission :=
  let kernel := kernel op workgroupSize
  match kernel.problems with
  | [] =>
    let path := filePath directory op
    { emission with
      files := emission.files.insert path kernel.code
      written := emission.written ++ [path]
      journal := emission.journal.record (logger.say .info (op ++ " -> " ++ path)) }
  | problems =>
    let report := op ++ ": " ++ "; ".intercalate (problems.map Problem.message)
    { emission with
      failed := emission.failed ++ [op]
      journal := emission.journal.record (logger.say .error report) }

end Emission

/-- Emit the kernels of all built-in operators into a directory. -/
def emitKernels (log : LogSettings) (directory : String) (workgroupSize : Extent) (files : Files) :
    Except Failure Emission :=
  if directory.isEmpty then .error .noDirectory
  else
    .ok (mapOperatorNames.foldl (Emission.addOperator directory workgroupSize)
      { files, journal := { settings := log } })

end Elementwise
