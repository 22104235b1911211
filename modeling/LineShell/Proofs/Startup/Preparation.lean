import LineShell.Proofs.World.Output
import LineShell.Startup

/-!
# What happens before the first line

The environment is read first, and its warnings are kept. Then the command line decides whether the
program goes on, and if it does, the log file is opened and one record says with which configuration
the shell starts.
-/

namespace LineShell

/-- What is printed when the command line ends the program. -/
def Stop.events (stop : Stop) : List Event :=
  (if stop.out = "" then [] else [.wrote .shell .stdout stop.out]) ++
    if stop.err = "" then [] else [.wrote .shell .stderr stop.err]

namespace World

variable {world opened : World} {handle : Option Handle} {config : Config}

/-! ### The log file -/

def openLog (world : World) : Option (Setting String) → Except Failure (Option Handle × World)
  | none | some .blank => .ok (none, world)
  | some (.given text) =>
    if text = "" then .ok (none, world)
    else (world.openLogFile text).map fun (handle, opened) => (some handle, opened)

theorem setUpLogging_eq (world : World) (config : Config) :
    world.setUpLogging config =
      match world.openLog config.logFile with
      | .error failure => (.error (.logFile failure), world)
      | .ok (handle, opened) =>
        match config.logLevel, handle with
        | .blank, _ => (.error .noLevel, opened)
        | .given level, none => (.ok (), { opened with logging := .stream level })
        | .given level, some handle =>
          (.ok (), { opened with logging := .file level handle.path }) := by
  rcases config with ⟨prompt, level, _ | (text | _)⟩ <;> rfl

theorem openLog_cases {file : Option (Setting String)}
    (hopen : world.openLog file = .ok (handle, opened)) :
    (handle = none ∧ opened = world) ∨
      ∃ log, handle = some log ∧
        opened = { world with files := world.files.openFile log.path true } := by
  rcases file with _ | (text | _)
  · cases hopen
    exact .inl ⟨rfl, rfl⟩
  · unfold openLog openLogFile at hopen
    dsimp only at hopen
    by_cases hempty : text = ""
    · rw [if_pos hempty] at hopen
      cases hopen
      exact .inl ⟨rfl, rfl⟩
    · rw [if_neg hempty] at hopen
      cases hpath : world.absolutePath text with
      | error failure =>
          rw [hpath] at hopen
          cases hopen
      | ok path =>
          rw [hpath] at hopen
          cases htarget : world.openTarget path true with
          | error failure =>
              simp [htarget, Except.map] at hopen
          | ok target =>
              obtain ⟨log, after⟩ := target
              obtain ⟨_, _, rfl⟩ := openTarget_eq_ok_iff.mp htarget
              simp only [htarget, Except.map, Except.ok.injEq, Prod.mk.injEq] at hopen
              obtain ⟨rfl, rfl⟩ := hopen
              exact .inr ⟨log, rfl, rfl⟩
  · cases hopen
    exact .inl ⟨rfl, rfl⟩

theorem trace_setUpLogging (world : World) (config : Config) :
    (world.setUpLogging config).2.trace = world.trace := by
  rw [setUpLogging_eq]
  cases hopen : world.openLog config.logFile with
  | error failure => rfl
  | ok result =>
      obtain ⟨handle, opened⟩ := result
      have htrace : opened.trace = world.trace := by
        rcases openLog_cases hopen with ⟨_, rfl⟩ | ⟨log, _, rfl⟩ <;> rfl
      rcases config.logLevel with level | _
      · cases handle <;> exact htrace
      · exact htrace

/-! ### The environment -/

/-- The world in which the environment has been read, with a warning if need be. -/
def warned (world : World) : World := (Config.envRecords world.env).foldl log world

theorem logged_foldl_log (world : World) (records : List Record) :
    Logged world (records.foldl log world) := by
  induction records generalizing world with
  | nil => exact Logged.refl world
  | cons record records ih => exact (logged_log world record).trans (ih (world.log record))

theorem shows_log (world : World) (record : Record) :
    Shows [.logged record] world (world.log record) :=
  world.shows_takeAll [.log record]

theorem shows_foldl_log (world : World) (records : List Record) :
    Shows (records.map .logged) world (records.foldl log world) := by
  induction records generalizing world with
  | nil => exact Shows.refl world
  | cons record records ih => exact (shows_log world record).trans (ih (world.log record))

theorem logged_warned (world : World) : Logged world world.warned :=
  logged_foldl_log world _

theorem records_warned (world : World) :
    world.warned.records = world.records ++ Config.envRecords world.env := by
  rw [warned, (shows_foldl_log world _).records, recordsIn, List.filterMap_map]
  congr 1
  exact List.filterMap_some

/-! ### Preparing -/

theorem prepare_eq (world : World) (arguments : List String) :
    world.prepare arguments =
      match Config.load world.env arguments with
      | .error stop => (.done stop.status, world.warned.printStop stop)
      | .ok config =>
        match world.warned.setUpLogging config with
        | (.error error, opened) => (.failed error, opened)
        | (.ok (), opened) =>
          (.ready ⟨.default, config.prompt.display⟩,
            opened.debug .program ("starting with " ++ config.describe)) := by
  rw [← world.logged_warned.env]
  rfl

theorem shows_printStop (world : World) (stop : Stop) :
    Shows stop.events world (world.printStop stop) := by
  have hwrite : ∀ (world : World) stream text,
      Shows (if text = "" then [] else [.wrote .shell stream text]) world
        (if text = "" then world else world.write stream text) := by
    intro world stream text
    split
    · exact Shows.refl world
    · exact world.shows_takeAll [.emit (.wrote .shell stream text)]
  exact (hwrite world .stdout stop.out).trans (hwrite _ .stderr stop.err)

theorem recordsIn_stopEvents (stop : Stop) : recordsIn stop.events = [] := by
  rw [recordsIn, Stop.events, List.filterMap_append]
  split <;> split <;> rfl

theorem prepare_of_stop {arguments : List String} {stop : Stop}
    (hload : Config.load world.env arguments = .error stop) :
    world.prepare arguments = (.done stop.status, world.warned.printStop stop) := by
  rw [prepare_eq, hload]

/-- Where the program goes on, one record at most follows the warnings before the first line. -/
theorem shows_prepare_of_config {arguments : List String}
    (hload : Config.load world.env arguments = .ok config) :
    ∃ later, Shows ((Config.envRecords world.env).map .logged ++ later) world
      (world.prepare arguments).2 ∧
      (later = [] ∨ later = [.logged ⟨.debug, .program, "starting with " ++ config.describe⟩]) := by
  have hwarned : Shows ((Config.envRecords world.env).map .logged) world world.warned :=
    shows_foldl_log world _
  have hset : Shows [] world.warned (world.warned.setUpLogging config).2 :=
    Shows.of_trace_eq (trace_setUpLogging world.warned config)
  rw [prepare_eq, hload]
  dsimp only
  generalize world.warned.setUpLogging config = result at hset ⊢
  rcases result with ⟨error | _, ready⟩
  · exact ⟨_, hwarned.trans hset, .inl rfl⟩
  · exact ⟨_, hwarned.trans (hset.trans (shows_log ready _)), .inr rfl⟩

/-- Setting up logging only ever refuses a level that is blank. -/
theorem setUpLogging_ne_noLevel {level : Level} (hlevel : config.logLevel = .given level) :
    (world.setUpLogging config).1 ≠ .error .noLevel := by
  rw [setUpLogging_eq, hlevel]
  rcases world.openLog config.logFile with failure | ⟨handle, opened⟩
  · nofun
  · cases handle <;> nofun

/-- The warnings about the environment come first, and after them no record is about the
configuration. -/
theorem records_prepare (world : World) (arguments : List String) :
    ∃ later, (world.prepare arguments).2.records =
        world.records ++ (Config.envRecords world.env ++ later) ∧
      ∀ record ∈ later, record.component ≠ .config := by
  have hkept : ∀ after : World, after.records = world.warned.records →
      after.records = world.records ++ (Config.envRecords world.env ++ []) := by
    intro after hafter
    rw [hafter, records_warned, List.append_nil]
  rw [prepare_eq]
  cases Config.load world.env arguments with
  | error stop =>
      refine ⟨[], hkept _ ?_, by simp⟩
      rw [(shows_printStop world.warned stop).records, recordsIn_stopEvents, List.append_nil]
  | ok config =>
      have htrace := trace_setUpLogging world.warned config
      dsimp only
      generalize world.warned.setUpLogging config = result at htrace ⊢
      have hset : result.2.records = world.warned.records := by rw [records, htrace, records]
      rcases result with ⟨error | done, ready⟩
      · exact ⟨[], hkept _ hset, by simp⟩
      · refine ⟨[⟨.debug, .program, "starting with " ++ config.describe⟩], ?_, by simp⟩
        dsimp only at hset ⊢
        rw [debug, (shows_log ready _).records, hset, records_warned, List.append_assoc]
        rfl

end World

end LineShell
