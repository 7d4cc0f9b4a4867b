import Elementwise.Failure
import Elementwise.Text
import Elementwise.Value

/-!
# Array-vector layouts

A layout describes the storage struct of a map kernel: a struct with one field, a run-time array of
vectors. A draft gives some members of a layout as loose values. Defining it completes the draft
from the default layout and checks the members in order: version, struct name, field name, element
type.
-/

namespace Elementwise

/-- A versioned array-vector layout, with any annotations its author added. -/
structure Layout where
  version : Number := 1
  structName : String := "ArrayVector"
  fieldName : String := "data"
  elementType : String := "vec4<f32>"
  annotations : List (String × Value) := []

instance : Inhabited Layout := ⟨{}⟩

def scalarTypes : List String := ["f32", "i32", "u32"]

/-- The name of the vector type with the given number of lanes. -/
def vectorType (lanes : Nat) (scalar : String) : String :=
  "vec" ++ Nat.repr lanes ++ "<" ++ scalar ++ ">"

/-- The number of lanes of a vector type, which is 2, 3 or 4; `none` for any other text. -/
def vectorLanes? (elementType : String) : Option Nat :=
  [2, 3, 4].find? fun lanes => scalarTypes.any fun scalar => elementType == vectorType lanes scalar

def vectorLanes (elementType : String) : Except Failure Number :=
  match vectorLanes? elementType with
  | some lanes => .ok (Number.ofInt lanes)
  | none => .error (.layout (.elementType elementType))

def Layout.structLines (layout : Layout) : List String :=
  ["struct " ++ layout.structName ++ " \x7b",
   "    " ++ layout.fieldName ++ ": array<" ++ layout.elementType ++ ">,",
   "\x7d;"]

/-! ### Defining layouts -/

/-- A layout whose members are loose values, all of them present. -/
structure LayoutProposal where
  version : Value
  structName : Value
  fieldName : Value
  elementType : Value
  annotations : List (String × Value) := []

/-- A layout whose members are loose values, those left out being `none`. -/
structure LayoutDraft where
  version : Option Value := none
  structName : Option Value := none
  fieldName : Option Value := none
  elementType : Option Value := none
  annotations : List (String × Value) := []

def Layout.propose (layout : Layout) : LayoutProposal where
  version := .number layout.version
  structName := .text layout.structName
  fieldName := .text layout.fieldName
  elementType := .text layout.elementType
  annotations := layout.annotations

/-- The proposal as a draft that leaves nothing out. -/
def LayoutProposal.draft (proposal : LayoutProposal) : LayoutDraft where
  version := some proposal.version
  structName := some proposal.structName
  fieldName := some proposal.fieldName
  elementType := some proposal.elementType
  annotations := proposal.annotations

/-- The draft with the members left out taken from the default layout. -/
def LayoutDraft.complete (draft : LayoutDraft) : LayoutProposal :=
  let standard := Layout.propose {}
  { version := draft.version.getD standard.version
    structName := draft.structName.getD standard.structName
    fieldName := draft.fieldName.getD standard.fieldName
    elementType := draft.elementType.getD standard.elementType
    annotations := draft.annotations }

namespace LayoutProposal

/-- The text of a member, which a value without text does not have. -/
def memberText (found : Value) : Except Failure String :=
  match found.toText? with
  | some text => .ok text
  | none => .error .notText

/-- The version has to be an integer from 1 up. -/
def checkVersion (found : Value) : Except Failure Unit := do
  let valid := match found with
    | .number a => a.isPositiveInteger
    | _ => false
  unless valid do
    throw (.layout (.version (← memberText found)))

/-- A name has to be an identifier. A value that is not text and reads like one fails apart. -/
def checkName (fault : String → LayoutFault) (found : Value) : Except Failure Unit := do
  let text ← memberText found
  match found with
  | .text _ => unless isIdentifier text do throw (.layout (fault text))
  | _ => throw (if hasIdentifierForm text then .notText else .layout (fault text))

/-- The element type has to read like a vector type. -/
def checkElementType (found : Value) : Except Failure Unit := do
  let text ← memberText found
  unless (vectorLanes? text).isSome do
    throw (.layout (.elementType text))

/-- The first fault of a proposal, if it has one. -/
def check (proposal : LayoutProposal) : Except Failure Unit := do
  checkVersion proposal.version
  checkName .structName proposal.structName
  checkName .fieldName proposal.fieldName
  checkElementType proposal.elementType

end LayoutProposal

/-- The completed draft, if it has no fault. -/
def LayoutDraft.define (draft : LayoutDraft) : Except Failure LayoutProposal := do
  draft.complete.check
  return draft.complete

end Elementwise
