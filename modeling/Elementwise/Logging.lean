import Elementwise.Text
import Elementwise.Value

/-!
# Logging

A logger tests the level at every call: it makes an entry when the level reaches the severity of the
line, and otherwise the call does nothing. A journal holds the settings in force, that is the level
and the sink, together with the entries made so far.
-/

namespace Elementwise

/-- The named log levels, from silence to full detail. -/
inductive LogLevel where
  | none
  | error
  | warn
  | info
  | debug
  deriving DecidableEq

namespace LogLevel

/-- The number of a level. Levels in use are numbers, so that any number may serve as one. -/
def number : LogLevel → Number
  | .none => 0
  | .error => 1
  | .warn => 2
  | .info => 3
  | .debug => 4

/-- The capital of a character, for characters whose capital is an ASCII letter. No name of a level
holds letters that other characters have as capitals. -/
def capital (c : Char) : Char :=
  if c == 'ı' then 'I' else if c == 'ſ' then 'S' else c.toUpper

/-- The level that a text names, whatever its case and the blanks around it. -/
def ofText? (text : String) : Option LogLevel :=
  match String.ofList ((Text.trim text.toList).map capital) with
  | "NONE" => some .none
  | "SILENT" => some .none
  | "ERROR" => some .error
  | "WARN" => some .warn
  | "WARNING" => some .warn
  | "INFO" => some .info
  | "DEBUG" => some .debug
  | _ => Option.none

end LogLevel

inductive Severity where
  | error
  | warn
  | info
  | debug
  deriving DecidableEq

namespace Severity

/-- The level from which on lines of a severity are kept. -/
def level : Severity → LogLevel
  | .error => .error
  | .warn => .warn
  | .info => .info
  | .debug => .debug

def name : Severity → String
  | .error => "error"
  | .warn => "warn"
  | .info => "info"
  | .debug => "debug"

def ofName? (name : String) : Option Severity :=
  [.error, .warn, .info, .debug].find? fun severity => severity.name == name

end Severity

/-- A source of lines: the part of the program it speaks for, and a level of its own if it has
one. -/
structure Logger where
  part : String
  ownLevel : Option Number := none

namespace Logger

def effectiveLevel (logger : Logger) (level : Number) : Number := logger.ownLevel.getD level

/-- Whether a logger keeps what needs the level `needed`. Nothing is kept at the level of
silence. -/
def isEnabled (logger : Logger) (level needed : Number) : Bool :=
  !needed.eqv 0 && needed.le (logger.effectiveLevel level)

def keeps (logger : Logger) (level : Number) (severity : Severity) : Bool :=
  logger.isEnabled level severity.level.number

end Logger

/-- Where entries go: to the console, or to a named recorder. -/
inductive Sink where
  | console
  | recorder (name : String)
  deriving DecidableEq

namespace Sink

def name : Sink → String
  | .console => "console"
  | .recorder name => name

def ofName (name : String) : Sink := if name = "console" then .console else .recorder name

/-- The channel of a sink for a severity. The console has no channel for debugging. -/
def channel : Sink → Severity → String
  | .console, .debug => "log"
  | _, severity => severity.name

end Sink

structure LogEntry where
  sink : String
  channel : String
  items : List Value

/-- A call that logs something. -/
inductive Event where
  /-- A logger offers a line. -/
  | offer (logger : Logger) (severity : Severity) (items : List Value)
  /-- An entry is made whatever the level. -/
  | print (entry : LogEntry)

/-- A logger offers a single text. -/
def Logger.say (logger : Logger) (severity : Severity) (text : String) : Event :=
  .offer logger severity [.text text]

structure LogSettings where
  level : Number := LogLevel.warn.number
  sink : Sink := .console

/-- The settings in force and the entries made so far. -/
structure Journal where
  settings : LogSettings := {}
  entries : List LogEntry := []

namespace Journal

/-- Carry out a call. An offered line starts with the name of the part it comes from. -/
def record (journal : Journal) : Event → Journal
  | .offer logger severity items =>
    if logger.keeps journal.settings.level severity then
      { journal with
        entries := journal.entries ++
          [⟨journal.settings.sink.name, journal.settings.sink.channel severity,
            .text ("[" ++ logger.part ++ "]") :: items⟩] }
    else journal
  | .print entry => { journal with entries := journal.entries ++ [entry] }

/-- Carry out some calls in order. -/
def recordAll (journal : Journal) (events : List Event) : Journal := events.foldl record journal

end Journal

end Elementwise
