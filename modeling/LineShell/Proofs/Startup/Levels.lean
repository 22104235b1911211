import LineShell.Proofs.Options.Precedence
import LineShell.Proofs.World.Levels

/-!
# The log level and the program

Whatever level is asked for on the command line, the program does the same. The records that it
emits at a level are those of the run at the lowest level that are severe enough.
-/

namespace LineShell

namespace Config

variable {env : List (String × String)} {base : List String} {config : Config}

/-- A level at the end of an accepted command line counts, and nothing else changes. -/
theorem load_at_level (hload : load env base = .ok config) (level : Level) :
    load env (base ++ ["--log-level", level.name]) =
      .ok { config with logLevel := .given level } := by
  unfold load at hload ⊢
  cases hbase : Settings.ofArguments base with
  | error stop =>
      rw [hbase] at hload
      cases hload
  | ok settings =>
      rw [hbase] at hload
      cases hload
      have hsorted : Argument.ofTexts ["--log-level", level.name] =
          .ok [.option (.set .logLevel) false none, .plain level.name] :=
        @Assignment.ofTexts_spell ⟨.logLevel, level.name, false⟩ (by cases level <;> decide) []
      have hlevel : Level.ofName? (Text.upper level.name) = some level := by
        cases level <;> decide +kernel
      have hread : settings.read [.option (.set .logLevel) false none, .plain level.name] =
          .ok ({ settings with logLevel := some (.given level) }, []) := by
        simp [Settings.read, Settings.give, hlevel]
      rw [Settings.ofArguments_append hbase hsorted hread]
      rfl

end Config

namespace World

variable {world before after : World} {file : Option (Setting String)} {logPath : Option Path}

/-! ### Where records go -/

/-- What a configuration names as its log file sends records to standard error or to a regular
file. -/
inductive LogsTo (world : World) : Option (Setting String) → Option Path → Prop
  | unset : LogsTo world none none
  | blank : LogsTo world (some .blank) none
  | empty : LogsTo world (some (.given "")) none
  | file {text absolute : String} {path : Path} (htext : text ≠ "")
      (habsolute : world.absolutePath text = .ok absolute)
      (hfile : world.DenotesFile absolute path) :
      LogsTo world (some (.given text)) (some path)

theorem Logged.logsTo (hlogged : Logged before after) (hlog : before.LogsTo file logPath) :
    after.LogsTo file logPath := by
  cases hlog with
  | unset => exact .unset
  | blank => exact .blank
  | empty => exact .empty
  | file htext habsolute hfile =>
      refine .file htext ?_ (hlogged.alike.denotesFile_iff.mpr hfile)
      rw [← habsolute]
      unfold absolutePath workingDirectory
      rw [hlogged.cwd]

/-- The world in which records go to the log from a threshold on. -/
def withLog (world : World) (logPath : Option Path) (threshold : Level) : World :=
  { world with
    files := match logPath with
      | none => world.files
      | some path => world.files.openFile path true
    logging := .to logPath threshold }

theorem setUpLogging_of_logsTo {config : Config} {level : Level}
    (hlog : world.LogsTo config.logFile logPath) (hlevel : config.logLevel = .given level) :
    world.setUpLogging config = (.ok (), world.withLog logPath level) := by
  rw [setUpLogging_eq, hlevel]
  generalize config.logFile = file at hlog
  cases hlog with
  | unset => rfl
  | blank => rfl
  | empty => rfl
  | file htext habsolute hfile =>
      rw [openLog, if_neg htext, openLogFile, habsolute]
      dsimp only
      rw [openTarget_eq, targetOf_eq_ok_iff.mpr hfile.1]
      rfl

theorem withLog_atLevels (writable : Path → Prop)
    (hregular : ∀ path, logPath = some path → world.files.IsRegular path) :
    AtLevels writable logPath world (world.withLog logPath) where
  cwd _ _ := rfl
  env _ _ := rfl
  find? _ _ _ _ := rfl
  performs := ⟨[], fun level => .of_trace_eq rfl⟩
  logs := by
    refine ⟨[], fun level => ⟨rfl, ⟨[], (List.append_nil _).symm, rfl⟩, ?_, ?_⟩,
      fun _ => Edit.onlyEntries_nil⟩
    · have hnone : ((Edit.entries []).filter (·.reaches level)).map Record.line = [] := rfl
      rw [hnone, ite_self, List.append_nil]
      rfl
    · rintro path rfl
      exact FileSystem.find?_openFile_self (hregular path rfl) true

theorem LogsTo.isRegular (hlog : world.LogsTo file logPath) {path : Path}
    (hpath : logPath = some path) : world.files.IsRegular path := by
  subst hpath
  cases hlog with
  | file _ _ hfile => exact hfile.2

/-! ### The whole program -/

theorem start_agree {base : List String} {config : Config}
    (hload : Config.load world.env base = .ok config) (hlog : world.LogsTo config.logFile logPath)
    (input : Input) :
    ∃ code runs,
      (∀ level : Level, world.start (base ++ ["--log-level", level.name]) input =
        (.ok code, runs level)) ∧
      AtLevels (fun path => ∃ line ∈ input.lines, Shell.CanWrite line path) logPath world.warned
        runs := by
  have hwarned := world.logged_warned.logsTo hlog
  generalize hwritable : (fun path => ∃ line ∈ input.lines, Shell.CanWrite line path) = writable
  have hready : AtLevels writable logPath world.warned fun level =>
      (world.warned.withLog logPath level).debug .program
        ("starting with " ++ Config.describe { config with logLevel := .given level }) := by
    -- The record names the level, so it differs, but only the run at the lowest level keeps it.
    refine (withLog_atLevels writable fun path => hwarned.isRegular).log
      ⟨.debug, .program,
        "starting with " ++ Config.describe { config with logLevel := .given .debug }⟩
      fun level => ?_
    cases level <;> simp [Record.reaches, Level.severity]
  obtain ⟨code, runs, hruns, hlevels⟩ :=
    (lockstep_atLevels writable logPath world.warned).runLines hready config.prompt.display
      input.failure fun line hline path hpath => hwritable ▸ ⟨line, hline, hpath⟩
  dsimp only at hruns
  refine ⟨code, runs, fun level => ?_, hlevels⟩
  have hprepare : world.prepare (base ++ ["--log-level", level.name]) =
      (.ready ⟨.default, config.prompt.display⟩, (world.warned.withLog logPath level).debug .program
        ("starting with " ++ Config.describe { config with logLevel := .given level })) := by
    have hset : world.warned.setUpLogging { config with logLevel := .given level } =
        (.ok (), world.warned.withLog logPath level) := setUpLogging_of_logsTo hwarned rfl
    rw [prepare_eq, Config.load_at_level hload level]
    dsimp only
    rw [hset]
  rw [start, hprepare]
  dsimp only [Shell.run]
  rw [hruns level]

end World

end LineShell
