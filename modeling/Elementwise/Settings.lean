import Elementwise.Extent
import Elementwise.Logging
import Elementwise.Number.Numeral

/-!
# Settings

The settings of the generator come from explicit choices, from the environment, and from the
defaults, in this order of preference.
-/

namespace Elementwise

structure Settings where
  workgroupSize : Extent := Extent.unit
  logLevel : Number := LogLevel.warn.number
  outputDir : String := "generated/kernels"

namespace Settings

/-- The workgroup size a text gives: one to three positive integers with commas between them,
missing ones being 1. An empty text gives none. -/
def workgroupSizeOf (written : String) : Except Failure (Option Extent) :=
  if written.isEmpty then .ok none
  else
    let sizes := (written.toList.splitOn ',').map fun part => Number.ofNumeral (Text.trim part)
    if 3 < sizes.length then .error (.tooManyDimensions written)
    else if sizes.any fun size => !size.isPositiveInteger then .error (.invalidDimension written)
    else .ok (some ⟨sizes[0]?.getD 1, sizes[1]?.getD 1, sizes[2]?.getD 1⟩)

/-- Explicit choices, each of which may be left out. -/
structure Choices where
  workgroupSize : Option Extent := none
  logLevel : Option Number := none
  outputDir : Option String := none

abbrev Environment := String → Option String

def environmentWorkgroupSize (env : Environment) : Except Failure (Option Extent) :=
  match env "KERNLOOM_WORKGROUP_SIZE" with
  | some written => workgroupSizeOf written
  | none => .ok none

def environmentLogLevel (env : Environment) : Option Number :=
  ((env "KERNLOOM_LOG_LEVEL").bind LogLevel.ofText?).map LogLevel.number

/-- The output directory from the environment, where an empty one counts as none. -/
def environmentOutputDir (env : Environment) : Option String :=
  (env "KERNLOOM_OUTPUT_DIR").filter fun dir => !dir.isEmpty

/-- The settings that result from choices and an environment. The workgroup size of the
environment is not looked at when one is chosen. -/
def resolve (choices : Choices) (env : Environment) : Except Failure Settings := do
  let defaults : Settings := {}
  let workgroupSize ← match choices.workgroupSize with
    | some size => pure (some size)
    | none => environmentWorkgroupSize env
  return {
    workgroupSize := workgroupSize.getD defaults.workgroupSize
    logLevel := (choices.logLevel <|> environmentLogLevel env).getD defaults.logLevel
    outputDir := (choices.outputDir <|> environmentOutputDir env).getD defaults.outputDir }

end Settings

end Elementwise
