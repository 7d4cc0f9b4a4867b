import Elementwise.Command

/-!
# The command

Writes the kernels of all built-in operators into a directory, which is the first argument or comes
from the environment.
-/

namespace Elementwise

/-- The variables the command looks at. -/
def commandVariables : List String :=
  ["KERNLOOM_WORKGROUP_SIZE", "KERNLOOM_LOG_LEVEL", "KERNLOOM_OUTPUT_DIR"]

def LogEntry.printLine (entry : LogEntry) : IO Unit :=
  let line := " ".intercalate (entry.items.map fun item => item.toText?.getD "")
  if entry.channel == "error" || entry.channel == "warn" then IO.eprintln line else IO.println line

end Elementwise

open Elementwise in
/-- Run the command in the current directory. -/
def main (arguments : List String) : IO UInt32 := do
  let env ← commandVariables.filterMapM fun name => do
    return (← IO.getEnv name).map fun value => (name, value)
  let workingDirectory := (← IO.currentDir).toString
  let step := Session.command {} arguments (List.lookup · env) workingDirectory ∅
  match step.result with
  | .error failure =>
    IO.eprintln failure.message
    return 1
  | .ok outcome =>
    IO.FS.createDirAll outcome.directory
    for (path, text) in outcome.files.entries do
      IO.FS.writeFile path text
    for entry in step.entries do
      entry.printLine
    return UInt32.ofNat outcome.exitCode
