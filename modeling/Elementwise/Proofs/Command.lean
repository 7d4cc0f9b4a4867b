import Elementwise.Command
import Elementwise.Proofs.Emission

/-!
# The emission command

The command emits every configuration that its settings accept, as long as all dimensions of the
workgroup size are below `10 ^ 21`. From there on the text of a dimension has an exponent, the
kernels do not verify, and the command writes nothing and reports all operators.
-/

namespace Elementwise

open Emission

/-- What the command leaves when all kernels are written: no report of an error, and under a path of
its own the verified kernel of each operator, with a workgroup size that is read back from its
text. -/
structure Emitted (size : Extent) (files : Files) (outcome : CommandOutcome)
    (entries : List LogEntry) : Prop where
  exitCode : outcome.exitCode = 0
  quiet : ∀ entry ∈ entries, entry.channel ≠ "error"
  distinct : (mapOperatorNames.map (filePath outcome.directory)).Nodup
  written : ∀ op ∈ mapOperatorNames,
    outcome.files.find? (filePath outcome.directory op) = some (kernel op size).code
  kept : ∀ path ∉ mapOperatorNames.map (filePath outcome.directory),
    outcome.files.find? path = files.find? path
  verified : ∀ op ∈ mapOperatorNames, (kernel op size).problems = []
  sizeWritten : ∀ op ∈ mapOperatorNames,
    ("@workgroup_size(" ++ joinNumbers ", " size.toList ++ ")").toList <:+:
      (kernel op size).code.toList
  sizeRead : ∀ op ∈ mapOperatorNames,
    (inspect (kernel op size).code).entryPoints = [⟨"main", size⟩]

/-- What the command leaves when no kernel is written: the files as they were, and a report of all
operators. -/
structure Refused (files : Files) (outcome : CommandOutcome) (entries : List LogEntry) : Prop where
  exitCode : outcome.exitCode = 1
  files : outcome.files = files
  reported : ⟨"console", "error", [.text ("Failed: " ++ ", ".intercalate mapOperatorNames)]⟩ ∈
    entries

namespace Session

variable {arguments : List String} {env : Settings.Environment} {settings : Settings}

/-- Accepted settings lead to an emission, and the summary is logged behind what the emission
logs. -/
lemma command_eq (session : Session) {workingDirectory : String} {files : Files}
    {emission : Emission} {events : List Event}
    (h : Settings.resolve (commandChoices arguments) env = .ok settings)
    (hemit : emitKernels ⟨settings.logLevel, .console⟩
      (Path.resolve workingDirectory settings.outputDir) settings.workgroupSize files =
        .ok emission)
    (hjournal : emission.journal =
      Journal.recordAll { settings := ⟨settings.logLevel, .console⟩ } events) :
    (session.command arguments env workingDirectory files).result =
        .ok ⟨if emission.failed.isEmpty then 0 else 1, emission.files,
          Path.resolve workingDirectory settings.outputDir⟩ ∧
      (session.command arguments env workingDirectory files).entries =
        (events ++ commandSummary (Path.resolve workingDirectory settings.outputDir)
          emission).flatMap (LogSettings.made ⟨settings.logLevel, .console⟩) := by
  have hentries : (session.command arguments env workingDirectory files).entries =
      (emission.journal.recordAll (commandSummary
        (Path.resolve workingDirectory settings.outputDir) emission)).entries := by
    simp [command, h, hemit]
  refine ⟨by simp [command, h, hemit], ?_⟩
  rw [hentries, hjournal, ← Journal.recordAll_append, Journal.recordAll_eq, List.nil_append]

/-- Kernels that are verified are all written. -/
lemma emitted_of_isPositional (session : Session) (workingDirectory : String) (files : Files)
    (h : Settings.resolve (commandChoices arguments) env = .ok settings)
    (hpositional : settings.workgroupSize.IsPositional) :
    ∃ outcome, (session.command arguments env workingDirectory files).result = .ok outcome ∧
      outcome.directory = Path.resolve workingDirectory settings.outputDir ∧
      Emitted settings.workgroupSize files outcome
        (session.command arguments env workingDirectory files).entries := by
  have hsize := Settings.isDimensions_of_resolve rfl h
  have hread := hsize.readsBack_iff.mpr hpositional
  have hemit := emitKernels_of_readsBack ⟨settings.logLevel, .console⟩ files
    (Path.resolve_ne_empty workingDirectory settings.outputDir) hread
  obtain ⟨hresult, hentries⟩ := session.command_eq h hemit (by dsimp only)
  refine ⟨_, hresult, rfl, rfl, ?_, nodup_filePath _,
    fun op hop => find?_writeKernels files (nodup_filePath _) hop,
    fun path hpath => find?_writeKernels_of_notMem files hpath,
    fun op hop => (problems_kernel_eq_nil_iff _ hop).mpr hread,
    fun op _ => attribute_isInfix_code op _,
    fun op hop => entryPoints_kernel hop hsize hpositional⟩
  intro entry hentry
  rw [hentries, List.mem_flatMap] at hentry
  obtain ⟨event, hevent, hentry⟩ := hentry
  rcases List.mem_append.mp hevent with hevent | hevent
  · -- the emitter informs of each file
    obtain ⟨op, _, rfl⟩ := List.mem_map.mp hevent
    rw [logger, LogSettings.made_say, LogSettings.line] at hentry
    split at hentry
    · rw [List.mem_singleton.mp hentry]
      simp [Sink.channel, Severity.name]
    · cases hentry
  · -- the summary has no second line
    simp only [commandSummary, List.isEmpty_nil, ↓reduceIte, List.mem_singleton] at hevent
    rw [hevent, consoleLine, LogSettings.made_print, List.mem_singleton] at hentry
    rw [hentry]
    simp

/-- Kernels with problems are all reported. -/
lemma refused_of_not_isPositional (session : Session) (workingDirectory : String) (files : Files)
    (h : Settings.resolve (commandChoices arguments) env = .ok settings)
    (hpositional : ¬ settings.workgroupSize.IsPositional) :
    ∃ outcome, (session.command arguments env workingDirectory files).result = .ok outcome ∧
      outcome.directory = Path.resolve workingDirectory settings.outputDir ∧
      Refused files outcome (session.command arguments env workingDirectory files).entries := by
  have hread := mt (Settings.isDimensions_of_resolve rfl h).readsBack_iff.mp hpositional
  have hemit := emitKernels_of_not_readsBack ⟨settings.logLevel, .console⟩ files
    (Path.resolve_ne_empty workingDirectory settings.outputDir) hread
  obtain ⟨hresult, hentries⟩ := session.command_eq h hemit (by dsimp only)
  refine ⟨_, hresult, rfl, rfl, rfl, ?_⟩
  rw [hentries, List.mem_flatMap]
  refine ⟨consoleLine "error" ("Failed: " ++ ", ".intercalate mapOperatorNames), ?_,
    List.mem_singleton_self _⟩
  apply List.mem_append_right
  have hsome : mapOperatorNames.isEmpty = false := by decide
  simp [commandSummary, hsome]

end Session

/-- Every accepted configuration is emitted, with the exit code 0 and a file for each operator,
exactly when its dimensions are below `10 ^ 21`. -/
theorem command_emits_positional (session : Session) (arguments : List String)
    (env : Settings.Environment) (workingDirectory : String) (files : Files) {settings : Settings}
    (accepted : Settings.resolve (commandChoices arguments) env = .ok settings) :
    ∃ outcome, (session.command arguments env workingDirectory files).result = .ok outcome ∧
      outcome.directory = Path.resolve workingDirectory settings.outputDir ∧
      (settings.workgroupSize.IsPositional →
        Emitted settings.workgroupSize files outcome
          (session.command arguments env workingDirectory files).entries) ∧
      (¬ settings.workgroupSize.IsPositional →
        Refused files outcome (session.command arguments env workingDirectory files).entries) := by
  by_cases hpositional : settings.workgroupSize.IsPositional
  · obtain ⟨outcome, hresult, hdirectory, hemitted⟩ :=
      session.emitted_of_isPositional workingDirectory files accepted hpositional
    exact ⟨outcome, hresult, hdirectory, fun _ => hemitted, fun hnot => absurd hpositional hnot⟩
  · obtain ⟨outcome, hresult, hdirectory, hrefused⟩ :=
      session.refused_of_not_isPositional workingDirectory files accepted hpositional
    exact ⟨outcome, hresult, hdirectory, fun h => absurd h hpositional, fun _ => hrefused⟩

/-! ### Particular sizes -/

/-- An environment with a workgroup size and nothing else. -/
def sizeEnvironment (written : String) : Settings.Environment :=
  fun name => if name = "KERNLOOM_WORKGROUP_SIZE" then some written else none

lemma resolve_sizeEnvironment {written : String} {size : Extent}
    (h : Settings.workgroupSizeOf written = .ok (some size)) :
    Settings.resolve (commandChoices ["o"]) (sizeEnvironment written) =
      .ok { workgroupSize := size, outputDir := "o" } := by
  have hsize : Settings.environmentWorkgroupSize (sizeEnvironment written) = .ok (some size) := by
    rw [← h]
    rfl
  simp only [Settings.resolve, commandChoices, hsize]
  rfl

theorem command_emits_positional_forms :
    ∃ settings, Settings.resolve (commandChoices ["o"]) (sizeEnvironment "0x10, 1e20") =
        .ok settings ∧
      settings.workgroupSize = ⟨16, 100000000000000000000, 1⟩ ∧
      ∃ outcome, (Session.command {} ["o"] (sizeEnvironment "0x10, 1e20") "/" ∅).result =
          .ok outcome ∧
        outcome.directory = "/o" ∧
        Emitted ⟨16, 100000000000000000000, 1⟩ ∅ outcome
          (Session.command {} ["o"] (sizeEnvironment "0x10, 1e20") "/" ∅).entries := by
  have hsize : Settings.workgroupSizeOf "0x10, 1e20" =
      .ok (some ⟨16, 100000000000000000000, 1⟩) := by
    have hsizes : ("0x10, 1e20".toList.splitOn ',').map
        (fun part => Number.ofNumeral (Text.trim part)) = [16, 100000000000000000000] := by
      decide +kernel
    rw [Settings.workgroupSizeOf_eq_ok (by decide) hsizes (by decide) (by decide +kernel)]
    rfl
  have haccepted := resolve_sizeEnvironment hsize
  have hpositional : Extent.IsPositional ⟨16, 100000000000000000000, 1⟩ := by
    decide +kernel
  obtain ⟨outcome, hresult, hdirectory, hemitted, _⟩ :=
    command_emits_positional {} ["o"] (sizeEnvironment "0x10, 1e20") "/" ∅ haccepted
  have hpath : Path.resolve "/" "o" = "/o" := by decide +kernel
  exact ⟨_, haccepted, rfl, outcome, hresult, hdirectory.trans hpath, hemitted hpositional⟩

/-- A size of `10 ^ 21` is accepted, and yet no kernel is emitted. -/
theorem command_refuses_accepted :
    ∃ settings, Settings.resolve (commandChoices ["o"]) (sizeEnvironment "1e21") = .ok settings ∧
      settings.workgroupSize = ⟨1000000000000000000000, 1, 1⟩ ∧
      ∃ outcome, (Session.command {} ["o"] (sizeEnvironment "1e21") "/" ∅).result = .ok outcome ∧
        Refused ∅ outcome (Session.command {} ["o"] (sizeEnvironment "1e21") "/" ∅).entries := by
  have hsize : Settings.workgroupSizeOf "1e21" = .ok (some ⟨1000000000000000000000, 1, 1⟩) := by
    have hsizes : ("1e21".toList.splitOn ',').map
        (fun part => Number.ofNumeral (Text.trim part)) = [1000000000000000000000] := by
      decide +kernel
    rw [Settings.workgroupSizeOf_eq_ok (by decide) hsizes (by decide) (by decide +kernel)]
    rfl
  have haccepted := resolve_sizeEnvironment hsize
  have hpositional : ¬ Extent.IsPositional ⟨1000000000000000000000, 1, 1⟩ := by
    decide +kernel
  obtain ⟨outcome, hresult, _, hrefused⟩ :=
    Session.refused_of_not_isPositional {} "/" ∅ haccepted hpositional
  exact ⟨_, haccepted, rfl, outcome, hresult, hrefused⟩

end Elementwise
