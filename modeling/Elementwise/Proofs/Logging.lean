import Elementwise.Logging
import Elementwise.Proofs.Number.Order

/-!
# Journals

What a call adds to a journal depends on the settings of the journal alone, and no call changes the
settings. So the entries of a journal are the entries made by one call after the other.
-/

namespace Elementwise

/-! ### Recording -/

/-- The entries that a call makes under the settings: one or none. -/
def LogSettings.made (settings : LogSettings) (event : Event) : List LogEntry :=
  (Journal.record { settings } event).entries

namespace Journal

variable (journal : Journal)

lemma record_eq (event : Event) :
    journal.record event =
      { journal with entries := journal.entries ++ journal.settings.made event } := by
  cases event with
  | print entry => rfl
  | offer logger severity items =>
    rw [LogSettings.made, record, record]
    split
    · rfl
    · rw [List.append_nil]

@[simp] lemma recordAll_nil : journal.recordAll [] = journal := rfl

@[simp] lemma recordAll_cons (event : Event) (events : List Event) :
    journal.recordAll (event :: events) = (journal.record event).recordAll events := rfl

lemma recordAll_append (events events' : List Event) :
    journal.recordAll (events ++ events') = (journal.recordAll events).recordAll events' :=
  List.foldl_append

lemma recordAll_eq (events : List Event) :
    journal.recordAll events =
      { journal with entries := journal.entries ++ events.flatMap journal.settings.made } := by
  induction events generalizing journal with
  | nil => simp
  | cons event events ih =>
    rw [recordAll_cons, record_eq, ih, List.flatMap_cons, List.append_assoc]

end Journal

/-! ### Levels -/

/-- The line is offered by a logger without a level of its own. -/
def Event.FollowsLevel : Event → Prop
  | .offer logger _ _ => logger.ownLevel = none
  | .print _ => False

/-- A logger without a level of its own keeps what the common level reaches. -/
lemma Logger.keeps_of_ownLevel_eq_none {logger : Logger} (h : logger.ownLevel = none)
    (level : Number) (severity : Severity) :
    logger.keeps level severity = severity.level.number.le level := by
  have hneeded : severity.level.number.eqv 0 = false := by
    cases severity <;> decide
  simp [keeps, isEnabled, effectiveLevel, h, hneeded]

namespace LogSettings

variable (settings : LogSettings)

lemma made_print (entry : LogEntry) : settings.made (.print entry) = [entry] := rfl

/-- What is logged of a line that a part of the program offers: its entry, if the level in force is
not below `needed`. -/
def line (part : String) (severity : Severity) (needed : Number) (text : String) :
    List LogEntry :=
  if needed.le settings.level then
    [⟨settings.sink.name, settings.sink.channel severity, [.text ("[" ++ part ++ "]"), .text text]⟩]
  else []

lemma made_say (part : String) (severity : Severity) (text : String) :
    settings.made (Logger.say { part } severity text) =
      settings.line part severity severity.level.number text := by
  rw [made, Logger.say, Journal.record, Logger.keeps_of_ownLevel_eq_none rfl, line]
  cases severity.level.number.le settings.level <;> rfl

/-- A line that is offered under a condition. -/
lemma flatMap_made_ite_say (p : Prop) [Decidable p] (part : String) (severity : Severity)
    (text : String) :
    (if p then [Logger.say { part } severity text] else []).flatMap settings.made =
      if p then settings.line part severity severity.level.number text else [] := by
  split
  · rw [List.flatMap_singleton, made_say]
  · rfl

end LogSettings

end Elementwise
