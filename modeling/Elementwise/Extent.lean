import Elementwise.Failure

/-!
# Extents and dispatch sizes

A workgroup size and a dispatch size are extents in three dimensions. A map kernel handles one
vector per invocation, so its dispatch covers the vectors of the output with workgroups along the
first dimension.
-/

namespace Elementwise

structure Extent where
  x : Number
  y : Number
  z : Number
  deriving DecidableEq

namespace Extent

def unit : Extent := ⟨1, 1, 1⟩

instance : Inhabited Extent := ⟨unit⟩

def toList (e : Extent) : List Number := [e.x, e.y, e.z]

end Extent

def joinNumbers (separator : String) (numbers : List Number) : String :=
  separator.intercalate (numbers.map Number.text)

/-- The quotient rounded up. The divisor has to be an integer from 1 up. -/
def ceilDiv (value divisor : Number) : Except Failure Number :=
  if divisor.isInteger && !divisor.le 0 then .ok (value / divisor).ceil
  else .error (.divisor divisor)

/-- The number of elements of a tensor with the given dimensions. -/
def elementCount (dims : List Number) : Number := dims.foldl (· * ·) 1

/-- The dispatch size for an output of the given length, with `lanes` elements to a vector. Elements
that do not fill a vector are left out. -/
def mapDispatch (length lanes : Number) (workgroupSize : Extent) : Except Failure Extent := do
  let x ← ceilDiv (length / lanes).floor workgroupSize.x
  return ⟨x, 1, 1⟩

/-- The number of workgroups a device runs along one dimension by default. -/
def maxWorkgroupsPerDimension : Number := 65535

end Elementwise
