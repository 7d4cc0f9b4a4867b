import Elementwise.Table
import Elementwise.Text.LowerCase

/-!
# Map operators

The built-in operators apply one shader function to every element. A registry is a table of
templates by operator.
-/

namespace Elementwise

/-- The built-in operators with their shader functions. -/
def mapOperators : List (String × String) := [
  ("Abs", "abs"),
  ("Acos", "acos"),
  ("Asin", "asin"),
  ("Atan", "atan"),
  ("Ceil", "ceil"),
  ("Cos", "cos"),
  ("Cosh", "cosh"),
  ("Exp", "exp"),
  ("Floor", "floor"),
  ("Log", "log"),
  ("Round", "round"),
  ("Sign", "sign"),
  ("Sin", "sin"),
  ("Sinh", "sinh"),
  ("Sqrt", "sqrt"),
  ("Tan", "tan"),
  ("Tanh", "tanh")]

def mapOperatorNames : List String := mapOperators.map Prod.fst

def isMapOperator (op : String) : Bool := mapOperatorNames.contains op

/-- The function a table gives for an operator, or else the operator's name in lower case. -/
def shaderFunctionIn (table : List (String × String)) (op : String) : String :=
  (table.lookup op).getD (Text.toLower op)

def shaderFunction (op : String) : String := shaderFunctionIn mapOperators op

/-! ### Registries -/

/-- Templates by operator, in the order of first registration. -/
abbrev Registry (τ : Type) := Table τ

namespace Registry

variable {τ : Type}

/-- The registry with one template for all built-in operators. -/
def registerMaps (registry : Registry τ) (template : τ) : Registry τ :=
  mapOperatorNames.foldl (fun r op => r.insert op template) registry

/-- The registry of the built-in operators alone. -/
def builtin (template : τ) : Registry τ := registerMaps ∅ template

end Registry

end Elementwise
