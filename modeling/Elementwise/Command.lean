import Elementwise.Session
import Elementwise.Settings

/-!
# The emission command

The command resolves its settings, emits the kernels of all built-in operators and prints a
summary. It is a step of a session, and leaves the log level of its settings behind.
-/

namespace Elementwise

def consoleLine (channel text : String) : Event := .print ⟨Sink.console.name, channel, [.text text]⟩

def commandSummary (directory : String) (emission : Emission) : List Event :=
  consoleLine "log"
    ("Wrote " ++ Nat.repr emission.written.length ++ " kernels to " ++ directory) ::
  (if emission.failed.isEmpty then []
   else [consoleLine "error" ("Failed: " ++ ", ".intercalate emission.failed)])

/-- What the command leaves: its exit code, the files, and the directory it wrote to. -/
structure CommandOutcome where
  exitCode : Nat
  files : Files
  directory : String

/-- The choices made by the arguments of the command: the first one, if it is not empty, is the
output directory. -/
def commandChoices (arguments : List String) : Settings.Choices :=
  { outputDir := arguments.head?.filter fun dir => !dir.isEmpty }

/-- The command line: resolve the settings, take over their log level, emit all kernels and print a
summary. The exit code tells whether all operators were written. Everything goes to the console,
and wrong settings leave the level as it was. -/
def Session.command (session : Session) (arguments : List String) (env : Settings.Environment)
    (workingDirectory : String) (files : Files) : Step CommandOutcome :=
  let session := { session with log := { session.log with sink := .console } }
  match Settings.resolve (commandChoices arguments) env with
  | .error failure => { result := .error failure, entries := [], session }
  | .ok settings =>
    let session := { session with log := { session.log with level := settings.logLevel } }
    let directory := Path.resolve workingDirectory settings.outputDir
    match emitKernels session.log directory settings.workgroupSize files with
    | .error failure => { result := .error failure, entries := [], session }
    | .ok emission =>
      { result := .ok ⟨if emission.failed.isEmpty then 0 else 1, emission.files, directory⟩
        entries := (emission.journal.recordAll (commandSummary directory emission)).entries
        session }

end Elementwise
