import LineShell.Command.Execute
import LineShell.Proofs.FileSystem.Content

/-!
# Steps

Every operation works on the world in steps. A step adds an event to the trace, keeps a log record,
opens a file or writes to one, or moves. None of them changes the environment or where records go,
and what a step adds to the trace is known before it is taken.
-/

namespace LineShell

inductive Step where
  | emit (event : Event)
  | log (record : Record)
  | openFile (path : Path) (append : Bool)
  | write (path : Path) (append : Bool) (text : String)
  | move (place : Place)

/-- The shell writes a line of its own. -/
def Step.say (stream : Descriptor) (text : String) : Step :=
  .emit (.wrote .shell stream (text ++ "\n"))

/-! ### Log records -/

namespace Logging

/-- The lines that a record gives on standard error. -/
def lines (logging : Logging) (record : Record) : List Event :=
  match logging with
  | .unset =>
    if record.reaches .warning then [.wrote .log .stderr (record.text ++ "\n")] else []
  | .stream threshold => if record.reaches threshold then [.wrote .log .stderr record.line] else []
  | .traceOnly | .file _ _ => []

/-- The files after a record is kept. -/
def keep (logging : Logging) (record : Record) (files : FileSystem) : FileSystem :=
  match logging with
  | .file threshold path =>
    if record.reaches threshold then files.written path true record.line else files
  | .traceOnly | .unset | .stream _ => files

theorem outline_keep (logging : Logging) (record : Record) (files : FileSystem) :
    (logging.keep record files).outline = files.outline := by
  cases logging with
  | file threshold path =>
      rw [keep]
      split
      · exact files.outline_written path true record.line
      · rfl
  | traceOnly | unset | stream threshold => rfl

theorem find?_keep {logging : Logging} {path : Path} (hpath : logging.path? ≠ some path)
    (record : Record) (files : FileSystem) :
    (logging.keep record files).find? path = files.find? path := by
  cases logging with
  | file threshold logPath =>
      rw [keep]
      split
      · have hne : path ≠ logPath := by simpa [path?, eq_comm] using hpath
        exact FileSystem.find?_written_of_ne hne true record.line
      · rfl
  | traceOnly | unset | stream threshold => rfl

theorem textAt_keep (logging : Logging) (record : Record) (files : FileSystem) (path : Path) :
    ∃ more, (logging.keep record files).textAt path = files.textAt path ++ more := by
  cases logging with
  | file threshold logPath =>
      rw [keep]
      split
      · exact files.textAt_written_append logPath record.line path
      · exact ⟨"", String.append_empty.symm⟩
  | traceOnly | unset | stream threshold => exact ⟨"", String.append_empty.symm⟩

end Logging

namespace Step

def added (logging : Logging) : Step → List Event
  | emit event => [event]
  | log record => .logged record :: logging.lines record
  | openFile .. | write .. | move _ => []

/-- What a step makes of the text in the file at a path. -/
def textAfter (logging : Logging) (path : Path) (text : String) : Step → String
  | log record =>
    match logging with
    | .file threshold logPath =>
      if logPath = path ∧ record.reaches threshold then text ++ record.line else text
    | .traceOnly | .unset | .stream _ => text
  | openFile target append => if target = path ∧ append = false then "" else text
  | write target append more =>
    if target = path then FileSystem.overwrite append more text else text
  | emit _ | move _ => text

end Step

namespace World

variable {world other : World}

/-- Keeping a record adds it to the trace, and its line where records go. -/
theorem log_eq (world : World) (record : Record) :
    world.log record =
      { world with
        files := world.logging.keep record world.files
        trace := world.trace ++ .logged record :: world.logging.lines record } := by
  obtain ⟨files, cwd, env, logging, trace⟩ := world
  unfold log emit
  cases logging with
  | traceOnly => rfl
  | unset =>
      by_cases hreach : record.reaches .warning <;> simp [Logging.lines, Logging.keep, hreach]
  | stream threshold =>
      by_cases hreach : record.reaches threshold <;> simp [Logging.lines, Logging.keep, hreach]
  | file threshold path =>
      by_cases hreach : record.reaches threshold <;>
        simp [Logging.lines, Logging.keep, hreach, FileSystem.appendText_eq_written]

/-! ### Taking steps -/

def take (world : World) : Step → World
  | .emit event => world.emit event
  | .log record => world.log record
  | .openFile path append => { world with files := world.files.openFile path append }
  | .write path append text => { world with files := world.files.written path append text }
  | .move place => { world with cwd := place }

def takeAll (world : World) (steps : List Step) : World := steps.foldl take world

@[simp]
theorem takeAll_nil (world : World) : world.takeAll [] = world := rfl

@[simp]
theorem takeAll_cons (world : World) (step : Step) (steps : List Step) :
    world.takeAll (step :: steps) = (world.take step).takeAll steps := rfl

@[simp]
theorem takeAll_append (world : World) (first second : List Step) :
    world.takeAll (first ++ second) = (world.takeAll first).takeAll second :=
  List.foldl_append

@[simp]
theorem env_take (world : World) (step : Step) : (world.take step).env = world.env := by
  cases step <;> simp [take, log_eq, emit]

@[simp]
theorem logging_take (world : World) (step : Step) : (world.take step).logging = world.logging := by
  cases step <;> simp [take, log_eq, emit]

theorem becomes_take (world : World) (step : Step) (path : Path) :
    Node.Becomes (world.files.find? path) ((world.take step).files.find? path) := by
  cases step with
  | emit | move => exact .kept _
  | log record =>
      rw [take, log_eq]
      exact FileSystem.becomes_of_outline_eq (world.logging.outline_keep record world.files) path
  | openFile target append => exact world.files.becomes_openFile target append path
  | write target append text =>
      exact FileSystem.becomes_of_outline_eq (world.files.outline_written target append text) path

theorem trace_take (world : World) (step : Step) :
    (world.take step).trace = world.trace ++ step.added world.logging := by
  cases step <;> simp [take, log_eq, emit, Step.added]

theorem trace_takeAll (world : World) (steps : List Step) :
    (world.takeAll steps).trace = world.trace ++ steps.flatMap (Step.added world.logging) := by
  induction steps generalizing world with
  | nil => simp
  | cons step steps ih =>
      rw [takeAll_cons, ih, logging_take, trace_take, List.flatMap_cons, List.append_assoc]

theorem find?_take {path : Path} {held : File}
    (hheld : world.files.find? path = some (.file held)) (step : Step) :
    (world.take step).files.find? path =
      some (.file ⟨step.textAfter world.logging path held.content, held.program⟩) := by
  cases step with
  | emit | move => exact hheld
  | log record =>
      rw [take, log_eq]
      unfold Step.textAfter
      cases world.logging with
      | file threshold logPath =>
          simp only [Logging.keep]
          by_cases hreach : record.reaches threshold
          · simp only [hreach, if_true, and_true, FileSystem.find?_written hheld]
            by_cases hpath : logPath = path <;> simp [hpath, FileSystem.overwrite]
          · simpa [hreach] using hheld
      | traceOnly | unset | stream threshold => exact hheld
  | openFile target append => exact FileSystem.find?_openFile hheld target append
  | write target append more => exact FileSystem.find?_written hheld target append more

theorem find?_takeAll {path : Path} {held : File}
    (hheld : world.files.find? path = some (.file held)) (steps : List Step) :
    (world.takeAll steps).files.find? path =
      some (.file ⟨steps.foldl (Step.textAfter world.logging path) held.content,
        held.program⟩) := by
  induction steps generalizing world held with
  | nil => exact hheld
  | cons step steps ih =>
      have hrest := ih (find?_take hheld step)
      rwa [logging_take] at hrest

/-! ### Two worlds -/

theorem cwd_take_congr (hcwd : other.cwd = world.cwd) (step : Step) :
    (other.take step).cwd = (world.take step).cwd := by
  cases step <;> simp [take, log_eq, emit, hcwd]

/-- What lies at a path after a step depends on nothing but what lay there, if records go
elsewhere. -/
theorem find?_take_congr {path : Path} (hother : other.logging.path? ≠ some path)
    (hworld : world.logging.path? ≠ some path)
    (hfind : other.files.find? path = world.files.find? path) (step : Step) :
    (other.take step).files.find? path = (world.take step).files.find? path := by
  cases step with
  | emit | move => exact hfind
  | log record =>
      rw [take, take, log_eq, log_eq]
      exact (Logging.find?_keep hother record _).trans
        (hfind.trans (Logging.find?_keep hworld record _).symm)
  | openFile target append => exact FileSystem.find?_openFile_congr hfind target append
  | write target append text => exact FileSystem.find?_written_congr hfind target append text

end World

end LineShell
