import Elementwise.Number.Printer

/-!
# Failures

Every way an operation can fail, with its message.
-/

namespace Elementwise

inductive LayoutFault where
  /-- The version is not an integer from 1 up. -/
  | version (found : String)
  /-- The struct name is not an identifier. -/
  | structName (found : String)
  /-- The field name is not an identifier. -/
  | fieldName (found : String)
  /-- The element type is not one of the vector types. -/
  | elementType (found : String)
  /-- A fault that the caller describes. -/
  | described (reason : String)
  deriving DecidableEq

def LayoutFault.reason : LayoutFault → String
  | .version found => "version must be a positive integer, got " ++ found
  | .structName found => "structName '" ++ found ++ "' is not a WGSL identifier"
  | .fieldName found => "fieldName '" ++ found ++ "' is not a WGSL identifier"
  | .elementType found => "unknown element type '" ++ found ++ "'"
  | .described reason => reason

inductive Failure where
  /-- A template gave up, for the reason it states. -/
  | compile (reason : String)
  /-- A node refers to a value without a known shape. -/
  | shapeNotFound (name : String)
  /-- No template is registered for the operator. -/
  | unsupportedOperator (op : String)
  /-- A layout cannot be declared. -/
  | layout (fault : LayoutFault)
  /-- A map operator lacks its input or its output. -/
  | arity (op : String)
  /-- A quotient was asked for a divisor that is not an integer from 1 up. -/
  | divisor (found : Number)
  /-- A written workgroup size has more than three dimensions. -/
  | tooManyDimensions (written : String)
  /-- A written workgroup size has a dimension that is not an integer from 1 up. -/
  | invalidDimension (written : String)
  /-- A value that is not text stands where text is needed. -/
  | notText
  /-- The empty path names no directory. -/
  | noDirectory
  deriving DecidableEq

namespace Failure

def message : Failure → String
  | .compile reason => reason
  | .shapeNotFound name => name ++ " not found"
  | .unsupportedOperator op =>
    "Unsupported operator '" ++ op ++ "': no kernel template registered"
  | .layout fault => "Invalid array-vector layout: " ++ fault.reason
  | .arity op => "Map operator '" ++ op ++ "' needs one input and one output"
  | .divisor found => "ceilDiv: divisor must be a positive integer, got " ++ found.text
  | .tooManyDimensions written =>
    "Invalid workgroup size '" ++ written ++ "': at most three dimensions"
  | .invalidDimension written =>
    "Invalid workgroup size '" ++ written ++ "': dimensions must be positive integers"
  | .notText => "text is needed"
  | .noDirectory => "no such directory"

/-- The named families of failures. -/
inductive Family where
  | compile
  | shapeNotFound
  | unsupportedOperator
  | layoutSchema
  deriving DecidableEq

def Family.all : List Family := [.compile, .shapeNotFound, .unsupportedOperator, .layoutSchema]

def Family.name : Family → String
  | .compile => "KernelCompileError"
  | .shapeNotFound => "ShapeNotFoundError"
  | .unsupportedOperator => "UnsupportedOperatorError"
  | .layoutSchema => "LayoutSchemaError"

/-- Whether the failures of `inner` belong to `outer`. Unknown shapes and unsupported operators are
compile failures. -/
def Family.includes (outer inner : Family) : Bool :=
  outer == inner ||
    (outer == .compile && (inner == .shapeNotFound || inner == .unsupportedOperator))

/-- The failure of a family about a subject: a reason, a value's name or an operator. -/
def Family.failure : Family → String → Failure
  | .compile, reason => .compile reason
  | .shapeNotFound, name => .shapeNotFound name
  | .unsupportedOperator, op => .unsupportedOperator op
  | .layoutSchema, reason => .layout (.described reason)

/-- The family of a failure, if it has one. -/
def family? : Failure → Option Family
  | .compile _ => some .compile
  | .shapeNotFound _ => some .shapeNotFound
  | .unsupportedOperator _ => some .unsupportedOperator
  | .layout _ => some .layoutSchema
  | _ => none

/-- The families a failure belongs to. -/
def families (failure : Failure) : List Family :=
  match failure.family? with
  | some inner => Family.all.filter (·.includes inner)
  | none => []

/-- A line about a failure: its title and its message, the title alone when there is no message. -/
def describe (title : String) (failure : Failure) : String :=
  if failure.message.isEmpty then title else title ++ ": " ++ failure.message

/-- The value without a known shape, for a failure about one. -/
def shapeName? : Failure → Option String
  | .shapeNotFound name => some name
  | _ => none

/-- The operator without a template, for a failure about one. -/
def operator? : Failure → Option String
  | .unsupportedOperator op => some op
  | _ => none

end Failure

end Elementwise
