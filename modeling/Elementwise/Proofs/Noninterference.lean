import Elementwise.Proofs.Workspace

/-!
# Logging does not interfere

Every logger tests the level on its own, at each call and in the middle of the work. Two runs of the
same operations under different levels are followed side by side here: at each point they agree in
all but their journals, and the quieter journal has those entries of the louder one that the lower
level reaches. This is shown for single calls, for builds by induction over what they are made from,
for emissions by induction over the operators, and then for whole runs.
-/

namespace Elementwise

open Build

/-! ### Severities -/

/-- The severity of an entry, by the channel of a recorder that it came on. -/
def LogEntry.severity? (entry : LogEntry) : Option ℕ :=
  [("error", 1), ("warn", 2), ("info", 3), ("debug", 4)].lookup entry.channel

/-- The entry has a severity of at most `level`. -/
def LogEntry.isUpTo (level : ℕ) (entry : LogEntry) : Bool := entry.severity?.any (· ≤ level)

def Severity.rank : Severity → ℕ
  | .error => 1
  | .warn => 2
  | .info => 3
  | .debug => 4

lemma Severity.number_level (severity : Severity) :
    severity.level.number = Number.ofInt severity.rank := by
  cases severity <;> rfl

lemma LogEntry.isUpTo_of_channel_eq {entry : LogEntry} {severity : Severity}
    (h : entry.channel = severity.name) (level : ℕ) :
    entry.isUpTo level = decide (severity.rank ≤ level) := by
  rw [isUpTo, severity?, h]
  cases severity <;> rfl

lemma Number.le_ofInt (m n : ℕ) : (Number.ofInt m).le (Number.ofInt n) = decide (m ≤ n) := by
  rw [ofInt, ofInt, le_finite]
  simp

/-- Entries go to a recorder under a level. -/
def LogSettings.recording (level : ℕ) (recorder : String) : LogSettings :=
  ⟨Number.ofInt level, .recorder recorder⟩

/-- A line that follows the level makes one entry, the same under each level that reaches it. -/
lemma LogSettings.exists_made_recording_eq {event : Event} (h : event.FollowsLevel)
    (recorder : String) :
    ∃ severity entry, entry.channel = Severity.name severity ∧ ∀ level,
      (recording level recorder).made event = if severity.rank ≤ level then [entry] else [] := by
  cases event with
  | print entry => exact absurd h not_false
  | offer logger severity items =>
    refine ⟨severity, ⟨recorder, severity.name, .text ("[" ++ logger.part ++ "]") :: items⟩, rfl,
      fun level => ?_⟩
    rw [made, Journal.record, Logger.keeps_of_ownLevel_eq_none h, severity.number_level, recording,
      Number.le_ofInt]
    by_cases hlevel : severity.rank ≤ level
    · simp [hlevel, Sink.name, Sink.channel]
    · simp [hlevel]

/-! ### Journals -/

/-- Two journals of one recorder under two levels: the first one has those entries of the second one
that the lower level reaches. -/
structure Journal.Quieter (low high : ℕ) (recorder : String) (journal journal' : Journal) :
    Prop where
  quiet : journal.settings = .recording low recorder
  loud : journal'.settings = .recording high recorder
  entries : journal.entries = journal'.entries.filter (·.isUpTo low)

variable {low high : ℕ} {recorder : String}

/-- Each of the two journals tests its own level, and the same call keeps them related. -/
lemma Journal.Quieter.record {journal journal' : Journal}
    (h : journal.Quieter low high recorder journal') (le : low ≤ high) {event : Event}
    (hevent : event.FollowsLevel) :
    (journal.record event).Quieter low high recorder (journal'.record event) := by
  obtain ⟨severity, entry, hchannel, hmade⟩ :=
    LogSettings.exists_made_recording_eq hevent recorder
  have hadded : (LogSettings.recording low recorder).made event =
      ((LogSettings.recording high recorder).made event).filter (·.isUpTo low) := by
    rw [hmade, hmade]
    by_cases hlow : severity.rank ≤ low
    · -- the lower level reaches the line, and so does the higher one
      rw [if_pos hlow, if_pos (hlow.trans le)]
      simp [LogEntry.isUpTo_of_channel_eq hchannel, hlow]
    · rw [if_neg hlow]
      split
      · -- the entry is made under the higher level only
        simp [LogEntry.isUpTo_of_channel_eq hchannel, hlow]
      · rfl
  rw [Journal.record_eq, Journal.record_eq]
  refine ⟨h.quiet, h.loud, ?_⟩
  rw [h.quiet, h.loud, h.entries, List.filter_append, hadded]

/-! ### Builds -/

/-- Two states that differ in their journals alone. -/
structure BuildState.Quieter (low high : ℕ) (recorder : String) (s s' : BuildState) : Prop where
  cache : s.cache = s'.cache
  nextSerial : s.nextSerial = s'.nextSerial
  journal : s.journal.Quieter low high recorder s'.journal

namespace Build

variable {α β : Type} {R : BuildState → BuildState → Prop}

/-- From related states the build yields the same and leaves related states. -/
def Parallel (R : BuildState → BuildState → Prop) (action : Build α) : Prop :=
  ∀ s s', R s s' →
    (exec action s).1 = (exec action s').1 ∧ R (exec action s).2 (exec action s').2

namespace Parallel

/-- The two runs of a build end alike. -/
lemma exists_exec_eq {action : Build α} (h : Parallel R action) {s s' : BuildState} (hs : R s s') :
    ∃ result t t', exec action s = (result, t) ∧ exec action s' = (result, t') ∧ R t t' := by
  obtain ⟨hresult, ht⟩ := h s s' hs
  exact ⟨(exec action s).1, (exec action s).2, (exec action s').2, rfl,
    Prod.ext hresult.symm rfl, ht⟩

lemma bind {x : Build α} {f : α → Build β} (hx : Parallel R x) (hf : ∀ a, Parallel R (f a)) :
    Parallel R (x >>= f) := by
  intro s s' hs
  obtain ⟨result, t, t', hexec, hexec', ht⟩ := hx.exists_exec_eq hs
  rw [exec_bind, exec_bind, hexec, hexec']
  cases result with
  | error failure => exact ⟨rfl, ht⟩
  | ok a => exact hf a t t' ht

lemma recover {x : Build α} {f : Failure → Build α} (hx : Parallel R x)
    (hf : ∀ failure, Parallel R (f failure)) : Parallel R (tryCatch x f) := by
  intro s s' hs
  obtain ⟨result, t, t', hexec, hexec', ht⟩ := hx.exists_exec_eq hs
  rw [exec_tryCatch, exec_tryCatch, hexec, hexec']
  cases result with
  | error failure => exact hf failure t t' ht
  | ok a => exact ⟨rfl, ht⟩

/-- A build that only looks at the cache sees the same in both runs. -/
lemma look {action : Build α} (view : Cache → α)
    (h : ∀ s, exec action s = (.ok (view s.cache), s)) :
    Parallel (BuildState.Quieter low high recorder) action := by
  intro s s' hs
  rw [h, h, hs.cache]
  exact ⟨rfl, hs⟩

lemma getOrMake (le : low ≤ high) {factory : Build (Artifact × β)}
    (h : Parallel (BuildState.Quieter low high recorder) factory) (key : String) :
    Parallel (BuildState.Quieter low high recorder) (Build.getOrMake key factory) := by
  intro s s' hs
  rw [exec_getOrMake, exec_getOrMake, hs.cache]
  cases s'.cache.find? key with
  | some artifact => exact ⟨rfl, hs⟩
  | none =>
    obtain ⟨result, t, t', hexec, hexec', ht⟩ := h.exists_exec_eq hs
    rw [hexec, hexec']
    cases result with
    | error failure => exact ⟨rfl, ht⟩
    | ok made =>
      -- the line of the cache comes after the store, and one of the two runs may drop it
      have hline : (cacheLogger.say .debug ("Generated " ++ key)).FollowsLevel := rfl
      exact ⟨rfl, congrArg (·.insert key made.1) ht.cache, ht.nextSerial,
        ht.journal.record le hline⟩

end Parallel

/-- Everything, as long as lines follow the level. -/
def Permit.levelled : Permit where
  event := Event.FollowsLevel
  clear := True
  kernel _ _ := True

lemma Permit.isOpen_levelled : Permit.levelled.IsOpen := ⟨fun _ h => h, fun _ _ => trivial⟩

/-- The two runs of a build stay side by side, whatever it is made from. -/
lemma Within.parallel {action : Build α} (h : Within .levelled action) (le : low ≤ high) :
    Parallel (BuildState.Quieter low high recorder) action := by
  induction h with
  | pure a => exact fun _ _ hs => ⟨rfl, hs⟩
  | throw failure => exact fun _ _ hs => ⟨rfl, hs⟩
  | bind _ _ ihx ihf => exact ihx.bind ihf
  | recover _ _ ihx ihf => exact ihx.recover ihf
  | emit hevent => exact fun _ _ hs => ⟨rfl, hs.cache, hs.nextSerial, hs.journal.record le hevent⟩
  | issue kernel =>
    intro s s' hs
    rw [exec_issue, exec_issue, hs.nextSerial]
    exact ⟨rfl, hs.cache, rfl, hs.journal⟩
  | cached? key => exact .look (·.find? key) (exec_cached? key)
  | isCached key => exact .look (·.contains key) (exec_isCached key)
  | cacheSize => exact .look (·.size) exec_cacheSize
  | clear _ =>
    intro s s' hs
    rw [exec_clear, exec_clear]
    exact ⟨rfl, rfl, hs.nextSerial, hs.journal⟩
  | getOrMake _ _ ih => exact ih.getOrMake le _

end Build

/-! ### Emissions -/

namespace Emission

variable {directory : String} {workgroupSize : Extent} {files : Files}

/-- Two emissions that differ in their journals alone. -/
structure Quieter (low high : ℕ) (recorder : String) (emission emission' : Emission) : Prop where
  files : emission.files = emission'.files
  written : emission.written = emission'.written
  failed : emission.failed = emission'.failed
  journal : emission.journal.Quieter low high recorder emission'.journal

lemma Quieter.addOperator {emission emission' : Emission}
    (h : Quieter low high recorder emission emission') (le : low ≤ high) (op : String) :
    Quieter low high recorder (addOperator directory workgroupSize emission op)
      (addOperator directory workgroupSize emission' op) := by
  delta Emission.addOperator
  have hline : ∀ severity text, (logger.say severity text).FollowsLevel := fun _ _ => rfl
  -- which kernel it is plays no part, and its text is not to be computed here
  generalize kernel op workgroupSize = k
  dsimp only
  cases k.problems with
  | nil =>
    exact
      { files := by rw [h.files]
        written := by rw [h.written]
        failed := h.failed
        journal := h.journal.record le (hline _ _) }
  | cons problem problems =>
    exact
      { files := h.files
        written := h.written
        failed := by rw [h.failed]
        journal := h.journal.record le (hline _ _) }

lemma Quieter.foldl_addOperator {emission emission' : Emission}
    (h : Quieter low high recorder emission emission') (le : low ≤ high) (ops : List String) :
    Quieter low high recorder (ops.foldl (Emission.addOperator directory workgroupSize) emission)
      (ops.foldl (Emission.addOperator directory workgroupSize) emission') := by
  induction ops generalizing emission emission' with
  | nil => exact h
  | cons op ops ih =>
    rw [List.foldl_cons, List.foldl_cons]
    exact ih (h.addOperator le op)

/-- The two runs of an emission fail alike, or they end in related emissions. -/
lemma emitKernels_quieter (le : low ≤ high) (recorder directory : String) (workgroupSize : Extent)
    (files : Files) :
    (∃ failure,
      emitKernels (.recording low recorder) directory workgroupSize files = .error failure ∧
        emitKernels (.recording high recorder) directory workgroupSize files = .error failure) ∨
      ∃ emission emission',
        emitKernels (.recording low recorder) directory workgroupSize files = .ok emission ∧
          emitKernels (.recording high recorder) directory workgroupSize files = .ok emission' ∧
          Quieter low high recorder emission emission' := by
  rw [emitKernels, emitKernels]
  split
  · exact Or.inl ⟨_, rfl, rfl⟩
  · have hstart : Quieter low high recorder
        { files, journal := { settings := .recording low recorder } }
        { files, journal := { settings := .recording high recorder } } :=
      ⟨rfl, rfl, rfl, rfl, rfl, rfl⟩
    exact Or.inr ⟨_, _, rfl, rfl, hstart.foldl_addOperator le mapOperatorNames⟩

end Emission

/-! ### Workspaces -/

namespace Workspace

variable {w w' : Workspace} {operation : Operation}

/-- The workspace with other log settings. -/
def under (w : Workspace) (settings : LogSettings) : Workspace :=
  { w with session := { w.session with log := settings } }

/-- Two workspaces that differ in their levels alone. -/
structure Quieter (low high : ℕ) (recorder : String) (w w' : Workspace) : Prop where
  cache : w.session.cache = w'.session.cache
  nextSerial : w.session.nextSerial = w'.session.nextSerial
  quiet : w.session.log = .recording low recorder
  loud : w'.session.log = .recording high recorder
  registries : w.registries = w'.registries
  files : w.files = w'.files

/-- Two outcomes of an operation that differ in what is logged alone. -/
structure Outcome.Quieter (low high : ℕ) (recorder : String) (outcome outcome' : Outcome) :
    Prop where
  reply : outcome.reply = outcome'.reply
  entries : outcome.entries = outcome'.entries.filter (·.isUpTo low)
  workspace : outcome.workspace.Quieter low high recorder outcome'.workspace

lemma Quieter.start (h : w.Quieter low high recorder w') :
    w.session.start.Quieter low high recorder w'.session.start :=
  ⟨h.cache, h.nextSerial, h.quiet, h.loud, rfl⟩

lemma Quieter.task?_eq (h : w.Quieter low high recorder w') (operation : Operation) :
    w.task? operation = w'.task? operation := by
  cases operation with
  | compile node name shapes choices => simp only [task?, registry, h.registries]
  | task task => rfl
  | registry name task => rfl
  | emit directory workgroupSize => rfl

lemma Quieter.performTask (h : w.Quieter low high recorder w') (le : low ≤ high)
    {task : Task Template} (htask : Build.Within .levelled task.build) :
    (w.performTask task).Quieter low high recorder (w'.performTask task) := by
  obtain ⟨result, t, t', hexec, hexec', ht⟩ :=
    (htask.parallel le).exists_exec_eq h.start
  simp only [Workspace.performTask, Session.perform, Session.build_eq, hexec, hexec']
  exact
    { reply := rfl
      entries := ht.journal.entries
      workspace := ⟨ht.cache, ht.nextSerial, ht.journal.quiet, ht.journal.loud, h.registries,
        h.files⟩ }

lemma Quieter.performRegistry (h : w.Quieter low high recorder w') (name : String)
    (task : RegistryTask) :
    (w.perform (.registry name task)).Quieter low high recorder
      (w'.perform (.registry name task)) := by
  simp only [perform, setRegistry, h.registries]
  exact ⟨rfl, rfl, h.cache, h.nextSerial, h.quiet, h.loud, rfl, h.files⟩

lemma Quieter.performEmit (h : w.Quieter low high recorder w') (le : low ≤ high)
    (directory : String) (workgroupSize : Extent) :
    (w.perform (.emit directory workgroupSize)).Quieter low high recorder
      (w'.perform (.emit directory workgroupSize)) := by
  simp only [perform, Session.emit, h.quiet, h.loud, h.files]
  rcases Emission.emitKernels_quieter le recorder directory workgroupSize w'.files with
    ⟨failure, hquiet, hloud⟩ | ⟨emission, emission', hquiet, hloud, hemission⟩
  · simp only [hquiet, hloud]
    exact ⟨rfl, rfl, h.cache, h.nextSerial, h.quiet, h.loud, h.registries, rfl⟩
  · simp only [hquiet, hloud]
    exact
      { reply := by rw [hemission.written, hemission.failed]
        entries := hemission.journal.entries
        workspace := ⟨h.cache, h.nextSerial, h.quiet, h.loud, h.registries, hemission.files⟩ }

/-- One operation keeps the two runs side by side. -/
lemma Quieter.perform (h : w.Quieter low high recorder w') (le : low ≤ high)
    (hw : w.Within .levelled) (hoperation : operation.Within .levelled) :
    (w.perform operation).Quieter low high recorder (w'.perform operation) := by
  cases htask : w.task? operation with
  | some task =>
    have hwithin := within_of_task? Permit.isOpen_levelled hw hoperation htask
    rw [perform_of_task? htask, perform_of_task? (h.task?_eq operation ▸ htask)]
    exact h.performTask le (Task.within_build Permit.isOpen_levelled hwithin)
  | none =>
    cases operation with
    | compile node name shapes choices => cases htask
    | task task => cases htask
    | registry name task => exact h.performRegistry name task
    | emit directory workgroupSize => exact h.performEmit le directory workgroupSize

/-- Whole runs stay side by side, and their logs are related like those of single operations. -/
lemma Quieter.run (h : w.Quieter low high recorder w') (le : low ≤ high)
    (hw : w.Within .levelled) {operations : List Operation}
    (hoperations : ∀ operation ∈ operations, operation.Within .levelled) :
    w.history operations = w'.history operations ∧
      w.log operations = (w'.log operations).filter (·.isUpTo low) ∧
      (w.run operations).Quieter low high recorder (w'.run operations) := by
  induction operations generalizing w w' with
  | nil => exact ⟨rfl, rfl, h⟩
  | cons first rest ih =>
    rw [List.forall_mem_cons] at hoperations
    have hfirst := h.perform le hw hoperations.1
    obtain ⟨hhistory, hlog, hrun⟩ := ih hfirst.workspace
      (within_after Permit.isOpen_levelled hw hoperations.1) hoperations.2
    refine ⟨?_, ?_, hrun⟩
    · rw [history, history, historyOf, historyOf, hfirst.reply]
      exact congrArg _ hhistory
    · simp only [log, historyOf, List.flatMap_cons, List.filter_append, hfirst.entries]
      exact congrArg _ hlog

end Workspace

/-- Logging does not interfere: under two levels the same operations get the same replies and leave
the same cache, registries and files. The log under the lower level is the log under the higher one
restricted to entries whose severity is at most the lower level, in the same order. The templates
and factories of callers may do anything as long as they log through loggers without a level of
their own. -/
theorem run_under_levels {w : Workspace} {operations : List Operation}
    (templates : w.Within .levelled)
    (levelled : ∀ operation ∈ operations, operation.Within .levelled)
    {low high : ℕ} (le : low ≤ high) (recorder : String) :
    let quiet := w.under ⟨Number.ofInt low, .recorder recorder⟩
    let loud := w.under ⟨Number.ofInt high, .recorder recorder⟩
    quiet.history operations = loud.history operations ∧
      (quiet.run operations).session.cache = (loud.run operations).session.cache ∧
      (quiet.run operations).registries = (loud.run operations).registries ∧
      (quiet.run operations).files = (loud.run operations).files ∧
      quiet.log operations = (loud.log operations).filter (·.isUpTo low) := by
  intro quiet loud
  have hstart : quiet.Quieter low high recorder loud := ⟨rfl, rfl, rfl, rfl, rfl, rfl⟩
  have hquiet : quiet.Within .levelled := templates
  obtain ⟨hhistory, hlog, hrun⟩ := hstart.run le hquiet levelled
  exact ⟨hhistory, hrun.cache, hrun.registries, hrun.files, hlog⟩

def emptyWorkspace : Workspace := ⟨{}, fun _ => ∅, ∅⟩

/-- A template that announces itself through a logger without a level of its own. -/
def announcingTemplate : Template := fun context options => do
  Build.emit (Logger.say { part := "Own" } .info "lowering")
  lowerMap context options

/-- Compile a node that writes the buffer it reads with the announcing template, and clear the cache
behind it. -/
def announcingOperations : List Operation :=
  [.registry "own" (.register "Abs" announcingTemplate),
   .compile ⟨"Abs", ["x"], ["x:"], none⟩ (some "own") (fun _ => some [8]) {},
   .task .clear]

theorem run_under_levels_announcing :
    let quiet := emptyWorkspace.under ⟨2, .recorder "capture"⟩
    let loud := emptyWorkspace.under ⟨4, .recorder "capture"⟩
    (emptyWorkspace.Within .levelled ∧
        (∀ operation ∈ announcingOperations, operation.Within .levelled) ∧ 2 ≤ 4) ∧
      quiet.log announcingOperations = (loud.log announcingOperations).filter (·.isUpTo 2) ∧
      (quiet.log announcingOperations).map LogEntry.channel = ["warn"] ∧
      (loud.log announcingOperations).map LogEntry.channel =
        ["info", "debug", "warn", "debug"] := by
  intro quiet loud
  have htemplates : emptyWorkspace.Within .levelled := fun _ => Registry.within_empty
  have hmap : ∀ context options, Build.Within .levelled (announcingTemplate context options) :=
    fun context options => (Within.emit rfl).bind fun _ =>
      .lowerMap Permit.isOpen_levelled.log (Permit.isOpen_levelled.maps options) context
  have hoperations : ∀ operation ∈ announcingOperations, operation.Within .levelled := by
    simp only [announcingOperations, List.forall_mem_cons]
    exact ⟨hmap, trivial, trivial, by simp⟩
  obtain ⟨_, _, _, _, hlog⟩ := run_under_levels htemplates hoperations
    (show 2 ≤ 4 by decide) "capture"
  exact ⟨⟨htemplates, hoperations, by decide⟩, hlog, by decide +kernel, by decide +kernel⟩

/-- A template with a logger that has a level of its own, and with an entry that passes by all
loggers. -/
def chattyTemplate : Template := fun context options => do
  Build.emit (.offer { part := "Own", ownLevel := some 4 } .debug [.text "lowering"])
  Build.emit (.print ⟨"echo", "call", [.text context.node.op]⟩)
  lowerMap context options

def chattyOperations : List Operation :=
  [.registry "own" (.register "Abs" chattyTemplate),
   .compile ⟨"Abs", ["x"], ["y"], none⟩ (some "own") (fun _ => some [8]) {}]

/-- With such a template there are entries under the level of silence, where the log under the
higher level has no entries to be kept. -/
theorem log_chattyOperations_ne :
    let quiet := emptyWorkspace.under ⟨0, .recorder "capture"⟩
    let loud := emptyWorkspace.under ⟨4, .recorder "capture"⟩
    (quiet.log chattyOperations).map LogEntry.channel = ["debug", "call"] ∧
      (loud.log chattyOperations).filter (·.isUpTo 0) = [] ∧
      quiet.log chattyOperations ≠ (loud.log chattyOperations).filter (·.isUpTo 0) := by
  intro quiet loud
  have hquiet : (quiet.log chattyOperations).map LogEntry.channel = ["debug", "call"] := by
    decide +kernel
  have hloud : (loud.log chattyOperations).filter (·.isUpTo 0) = [] := by
    rw [← List.map_eq_nil_iff (f := LogEntry.channel)]
    decide +kernel
  refine ⟨hquiet, hloud, ?_⟩
  intro heq
  rw [heq, hloud] at hquiet
  cases hquiet

end Elementwise
