import LineShell.Proofs.Shell.Lockstep

/-!
# Runs at all levels

The same run may keep log records at any level. At each level it does the same, and of the same
records it keeps those that are severe enough. In a log file they stand among what else was written
to it: a `script` of edits tells what happened to the file at every level.
-/

namespace LineShell

instance : Nonempty Level := ⟨.debug⟩

/-- Where records go: to a file if there is one, and to standard error otherwise. -/
def Logging.to (logPath : Option Path) (threshold : Level) : Logging :=
  match logPath with
  | none => .stream threshold
  | some path => .file threshold path

@[simp]
theorem Logging.path?_to (logPath : Option Path) (threshold : Level) :
    (Logging.to logPath threshold).path? = logPath := by
  cases logPath <;> rfl

/-- What may happen to a log file. -/
inductive Edit where
  | entry (record : Record)
  | emptied
  | wrote (append : Bool) (text : String)
  deriving DecidableEq, Repr

namespace Edit

/-- What an edit makes of a content. A record below the threshold leaves it as it is. -/
def apply (threshold : Level) (content : String) : Edit → String
  | entry record => if record.reaches threshold then content ++ record.line else content
  | emptied => ""
  | wrote append text => FileSystem.overwrite append text content

def replay (threshold : Level) (script : List Edit) (content : String) : String :=
  script.foldl (apply threshold) content

def record? : Edit → Option Record
  | entry record => some record
  | _ => none

/-- The records among the edits. -/
def entries (script : List Edit) : List Record := script.filterMap record?

theorem replay_append (threshold : Level) (script more : List Edit) (content : String) :
    replay threshold (script ++ more) content =
      replay threshold more (replay threshold script content) :=
  List.foldl_append

/-- Nothing but records has been written. -/
def OnlyEntries (script : List Edit) : Prop := script = (entries script).map .entry

/-- A file that takes nothing but records grows by the lines of those that reach the threshold. -/
theorem OnlyEntries.replay_eq {script : List Edit} (hscript : OnlyEntries script)
    (threshold : Level) (content : String) :
    replay threshold script content =
      content ++ String.join (((entries script).filter (·.reaches threshold)).map Record.line) := by
  rw [OnlyEntries] at hscript
  generalize entries script = records at hscript ⊢
  subst hscript
  induction records generalizing content with
  | nil => simp [replay]
  | cons record records ih =>
      rw [List.map_cons, ← List.singleton_append, replay_append, ih]
      by_cases hreach : record.reaches threshold <;>
        simp [replay, apply, hreach, String.join_cons, String.append_assoc]

theorem entries_append (script more : List Edit) :
    entries (script ++ more) = entries script ++ entries more :=
  List.filterMap_append

theorem apply_entry_congr {threshold : Level} {record entry : Record}
    (hentry : [record].filter (·.reaches threshold) = [entry].filter (·.reaches threshold))
    (content : String) :
    apply threshold content (.entry record) = apply threshold content (.entry entry) := by
  by_cases hrecord : record.reaches threshold <;> by_cases hother : entry.reaches threshold <;>
    simp_all [apply]

theorem onlyEntries_nil : OnlyEntries [] := by
  rfl

theorem OnlyEntries.append {script more : List Edit} (hscript : OnlyEntries script)
    (hmore : OnlyEntries more) : OnlyEntries (script ++ more) := by
  rw [OnlyEntries, entries_append, List.map_append, ← hscript, ← hmore]

def ofStep (logPath : Option Path) : Step → List Edit
  | .log record => [.entry record]
  | .openFile path append => if logPath = some path ∧ append = false then [.emptied] else []
  | .write path append text => if logPath = some path then [.wrote append text] else []
  | .emit _ | .move _ => []

theorem onlyEntries_ofStep {logPath : Option Path} {writable : Path → Prop} {step : Step}
    (hlog : ∀ path, logPath = some path → ¬ writable path) (hconfined : step.Confined writable) :
    OnlyEntries (ofStep logPath step) := by
  cases step with
  | openFile path append =>
      rw [ofStep, if_neg fun hopen => hlog path hopen.1 hconfined]
      exact onlyEntries_nil
  | write path append text =>
      rw [ofStep, if_neg fun hpath => hlog path hpath hconfined]
      exact onlyEntries_nil
  | log | emit | move => rfl

theorem entries_ofStep (logPath : Option Path) {writable : Path → Prop} {step : Step}
    (hconfined : step.Confined writable) :
    entries (ofStep logPath step) = World.recordsIn step.shown := by
  cases step with
  | emit event =>
      cases event with
      | logged record => exact absurd trivial hconfined
      | wrote writer stream text => cases writer <;> rfl
      | spawned => rfl
  | openFile path append =>
      rw [ofStep]
      split <;> rfl
  | write path append text =>
      rw [ofStep]
      split <;> rfl
  | log | move => rfl

/-- A log file becomes what its edits make of it. -/
theorem replay_ofStep (threshold : Level) (path : Path) (content : String) (step : Step) :
    replay threshold (ofStep (some path) step) content =
      step.textAfter (.to (some path) threshold) path content := by
  cases step with
  | log record =>
      by_cases hreach : record.reaches threshold <;>
        simp [ofStep, replay, apply, Step.textAfter, Logging.to, hreach]
  | openFile target append =>
      by_cases hopen : target = path ∧ append = false
      · simp [ofStep, replay, apply, Step.textAfter, hopen]
      · have hother : ¬ (some path = some target ∧ append = false) := by simpa [eq_comm] using hopen
        simp only [ofStep, Step.textAfter, if_neg hopen, if_neg hother]
        rfl
  | write target append text =>
      by_cases htarget : path = target
      · simp [ofStep, replay, apply, Step.textAfter, htarget]
      · simp [ofStep, replay, Step.textAfter, htarget, Ne.symm htarget]
  | emit | move => rfl

end Edit

namespace World

variable {logPath : Option Path} {threshold : Level} {script : List Edit}
  {world before after : World} {writable : Path → Prop}

/-! ### One run -/

/-- The lines written for log records on standard error. -/
def logTexts (world : World) : List String :=
  world.trace.filterMap fun
    | .wrote .log .stderr text => some text
    | _ => none

/-- A record that reaches the threshold is written as a line where there is no log file. -/
theorem logTexts_take (hlogging : world.logging = .to logPath threshold) {step : Step}
    (hconfined : step.Confined writable) :
    (world.take step).logTexts = world.logTexts ++
      if logPath = none then
        ((Edit.entries (Edit.ofStep logPath step)).filter (·.reaches threshold)).map Record.line
      else [] := by
  rw [logTexts, trace_take, List.filterMap_append, ← logTexts, hlogging]
  congr 1
  cases step with
  | emit event =>
      rcases event with ⟨_ | _ | _, _ | _, _⟩ | _ | _
      case wrote.log.stderr => exact absurd trivial hconfined
      all_goals exact (ite_self []).symm
  | log record =>
      by_cases hreach : record.reaches threshold <;>
        cases logPath <;> simp [Step.added, Logging.lines, Logging.to, Edit.ofStep, Edit.entries,
          Edit.record?, hreach]
  | openFile path append | write path append text | move place =>
      cases logPath <;> simp [Step.added, Edit.ofStep, Edit.entries]

/-- Between two worlds the log has taken the records of a script that reach the threshold. -/
structure Logs (logPath : Option Path) (threshold : Level) (script : List Edit)
    (before after : World) : Prop where
  logging : after.logging = .to logPath threshold
  records : ∃ kept, after.records = before.records ++ kept ∧
    kept.filter (·.reaches threshold) = (Edit.entries script).filter (·.reaches threshold)
  logTexts : after.logTexts = before.logTexts ++
    if logPath = none then
      ((Edit.entries script).filter (·.reaches threshold)).map Record.line
    else []
  find? : ∀ path, logPath = some path → after.files.find? path =
    some (.file ⟨Edit.replay threshold script (before.files.textAt path),
      (before.files.sight path).2⟩)

theorem Logs.take (hlogs : Logs logPath threshold script before after) {step : Step}
    (hconfined : step.Confined writable) :
    Logs logPath threshold (script ++ Edit.ofStep logPath step) before (after.take step) where
  logging := (logging_take after step).trans hlogs.logging
  records := by
    obtain ⟨kept, hkept, hreach⟩ := hlogs.records
    have htaken := (after.shows_takeAll [step]).records
    refine ⟨kept ++ recordsIn step.shown, ?_, ?_⟩
    · rw [takeAll_cons, takeAll_nil, List.flatMap_singleton] at htaken
      rw [htaken, hkept, List.append_assoc]
    · rw [List.filter_append, hreach, Edit.entries_append, List.filter_append,
        Edit.entries_ofStep logPath hconfined]
  logTexts := by
    rw [logTexts_take hlogs.logging hconfined, hlogs.logTexts, Edit.entries_append,
      List.filter_append, List.map_append, List.append_assoc]
    split <;> rfl
  find? := by
    rintro path rfl
    rw [find?_take (hlogs.find? path rfl), hlogs.logging, Edit.replay_append, Edit.replay_ofStep]

/-- The record that is kept may be another than the one in the script, as long as both are below the
threshold. -/
theorem Logs.log (hlogs : Logs logPath threshold script before after) {record entry : Record}
    (hentry : [record].filter (·.reaches threshold) = [entry].filter (·.reaches threshold)) :
    Logs logPath threshold (script ++ [.entry entry]) before (after.log record) := by
  have hentries : (Edit.entries (script ++ [.entry entry])).filter (·.reaches threshold) =
      (Edit.entries (script ++ [.entry record])).filter (·.reaches threshold) := by
    simpa [Edit.entries_append, Edit.entries, Edit.record?] using hentry.symm
  have hreplay : ∀ content, Edit.replay threshold (script ++ [.entry entry]) content =
      Edit.replay threshold (script ++ [.entry record]) content := by
    intro content
    rw [Edit.replay_append, Edit.replay_append]
    exact (Edit.apply_entry_congr hentry _).symm
  have hconfined : Step.Confined (fun _ => True) (.log record) := trivial
  have htaken := hlogs.take hconfined
  refine ⟨htaken.logging, hentries ▸ htaken.records, hentries ▸ htaken.logTexts, ?_⟩
  intro path hpath
  rw [hreplay]
  exact htaken.find? path hpath

/-! ### All runs -/

/-- At all levels the same has happened since one world, and the log has taken what reaches the
level. A log file that is not writable otherwise has taken nothing else. -/
structure AtLevels (writable : Path → Prop) (logPath : Option Path) (before : World)
    (worlds : Level → World) : Prop where
  cwd : ∀ first second, (worlds second).cwd = (worlds first).cwd
  env : ∀ first second, (worlds second).env = (worlds first).env
  find? : ∀ path, logPath ≠ some path →
    ∀ first second, (worlds second).files.find? path = (worlds first).files.find? path
  performs : ∃ events, ∀ level, Performs events before (worlds level)
  logs : ∃ script, (∀ level, Logs logPath level script before (worlds level)) ∧
    ((∀ path, logPath = some path → ¬ writable path) → Edit.OnlyEntries script)

variable {worlds : Level → World}

theorem AtLevels.outline (hlevels : AtLevels writable logPath before worlds)
    (first second : Level) : (worlds second).files.outline = (worlds first).files.outline := by
  funext path
  rw [FileSystem.outline, FileSystem.outline]
  by_cases hpath : logPath = some path
  · obtain ⟨script, hlogs, _⟩ := hlevels.logs
    rw [(hlogs first).find? path hpath, (hlogs second).find? path hpath]
    rfl
  · rw [hlevels.find? path hpath first second]

theorem AtLevels.path?_eq (hlevels : AtLevels writable logPath before worlds)
    (first second : Level) : (worlds second).logging.path? = (worlds first).logging.path? := by
  obtain ⟨script, hlogs, _⟩ := hlevels.logs
  rw [(hlogs first).logging, (hlogs second).logging, Logging.path?_to, Logging.path?_to]

/-- The records may differ as long as the log cannot tell at any level. -/
theorem AtLevels.log (hlevels : AtLevels writable logPath before worlds)
    {records : Level → Record} (entry : Record)
    (hrecords : ∀ level : Level, [records level].filter (·.reaches level) =
      [entry].filter (·.reaches level)) :
    AtLevels writable logPath before fun level => (worlds level).log (records level) := by
  have hlogged : ∀ level, Logged (worlds level) ((worlds level).log (records level)) :=
    fun level => logged_log (worlds level) (records level)
  obtain ⟨events, hperforms⟩ := hlevels.performs
  obtain ⟨script, hlogs, honly⟩ := hlevels.logs
  refine ⟨?_, ?_, ?_, ⟨events ++ [], fun level => (hperforms level).trans (hlogged level).performs⟩,
    ⟨script ++ [.entry entry], fun level => (hlogs level).log (hrecords level),
      fun hpath => (honly hpath).append (by rfl)⟩⟩
  · intro first second
    rw [(hlogged first).cwd, (hlogged second).cwd, hlevels.cwd first second]
  · intro first second
    rw [(hlogged first).env, (hlogged second).env, hlevels.env first second]
  · intro path hpath first second
    have hother : ∀ level, (worlds level).logging.path? ≠ some path := by
      intro level
      rw [(hlogs level).logging, Logging.path?_to]
      exact hpath
    rw [(hlogged first).find? path (hother first), (hlogged second).find? path (hother second),
      hlevels.find? path hpath first second]

/-- Two runs did the same but for their log records. -/
structure SameButLog (logPath : Option Path) (first second : World) : Prop where
  /-- all that was written and started, in order, log records and the lines for them aside -/
  events : second.trace.filter (¬ ·.IsLog) = first.trace.filter (¬ ·.IsLog)
  out : second.out = first.out
  shown : second.shown .stderr = first.shown .stderr
  spawns : second.spawns = first.spawns
  cwd : second.cwd = first.cwd
  env : second.env = first.env
  find? : ∀ path, logPath ≠ some path → second.files.find? path = first.files.find? path

theorem AtLevels.sameButLog {runs : Level → World} (hlevels : AtLevels writable logPath before runs)
    (first second : Level) : SameButLog logPath (runs first) (runs second) := by
  obtain ⟨events, hperforms⟩ := hlevels.performs
  have htrace : ∀ level, (runs level).trace.filter (¬ ·.IsLog) = before.trace.filter (¬ ·.IsLog) ++
      events := by
    intro level
    obtain ⟨added, hadded, rfl⟩ := hperforms level
    rw [hadded, List.filter_append]
  exact
    { events := by rw [htrace, htrace]
      out := by rw [(hperforms first).out, (hperforms second).out]
      shown := by rw [(hperforms first).shown, (hperforms second).shown]
      spawns := by rw [(hperforms first).spawns, (hperforms second).spawns]
      cwd := hlevels.cwd first second
      env := hlevels.env first second
      find? := fun path hpath => hlevels.find? path hpath first second }

theorem AtLevels.take (hlevels : AtLevels writable logPath before worlds) (step : Step)
    (hconfined : step.Confined writable) :
    AtLevels writable logPath before fun level => (worlds level).take step := by
  obtain ⟨events, hperforms⟩ := hlevels.performs
  obtain ⟨script, hlogs, honly⟩ := hlevels.logs
  refine ⟨fun first second => ?_, fun first second => ?_, fun path hpath first second => ?_,
    ⟨_, fun level => (hperforms level).trans ((worlds level).performs_takeAll [step])⟩,
    ⟨_, fun level => (hlogs level).take hconfined,
      fun hlog => (honly hlog).append (Edit.onlyEntries_ofStep hlog hconfined)⟩⟩
  · exact cwd_take_congr (hlevels.cwd first second) step
  · rw [env_take, env_take, hlevels.env first second]
  · have hother : ∀ level, (worlds level).logging.path? ≠ some path := by
      intro level
      rw [(hlogs level).logging, Logging.path?_to]
      exact hpath
    exact find?_take_congr (hother second) (hother first) (hlevels.find? path hpath first second)
      step

/-- What the shell does it does at all levels alike. -/
theorem lockstep_atLevels (writable : Path → Prop) (logPath : Option Path) (before : World) :
    Lockstep writable (AtLevels writable logPath before) where
  alike hlevels first second :=
    ⟨hlevels.cwd first second, hlevels.env first second, hlevels.outline first second,
      hlevels.path?_eq first second⟩
  take hlevels step hconfined := hlevels.take step hconfined

end World

end LineShell
