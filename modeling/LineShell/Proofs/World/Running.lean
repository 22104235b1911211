import LineShell.Proofs.World.Output

/-!
# What running a program shows

What a program does is decided by what a search sees, and a search does not see texts of files. So
running a program shows the same events in any two worlds in which programs are found alike, and its
text goes behind what the file opened for it holds.
-/

namespace LineShell

namespace World

variable {world : World}

/-- How an external command ends once its redirect is open: it is looked up first. -/
def externalResult (world : World) (name : String) (args : List String) (opened : Option Path) :
    Except ShellError Int :=
  match world.findExecutable name with
  | none => .error (.commandNotFound name)
  | some executable =>
    (world.startResult (name :: args) executable opened).mapError fun failure =>
      .spawn name failure.reason

/-- The executable that is started, if a start is attempted. -/
def started? (world : World) (name : String) (args : List String) : Option String :=
  if (name :: args).any hasNul then none else world.findExecutable name

def externalRecords (world : World) (name : String) (args : List String)
    (opened : Option Path) : List Record :=
  match world.findExecutable name with
  | none => []
  | some executable =>
    [startRecord name executable args,
      endRecord name executable (world.startResult (name :: args) executable opened)]

def externalText (world : World) (name : String) (args : List String) (opened : Option Path)
    (stream : Descriptor) : String :=
  match world.findExecutable name with
  | none => ""
  | some executable => world.startText (name :: args) executable opened stream

def externalEvents (world : World) (name : String) (args : List String) (selected : Descriptor)
    (file : Option Handle) : List Event :=
  (world.externalPlan name args selected file).steps.flatMap Step.shown

theorem answer_externalPlan (world : World) (name : String) (args : List String)
    (selected : Descriptor) (file : Option Handle) :
    (world.externalPlan name args selected file).answer =
      world.externalResult name args (file.map Handle.path) := by
  unfold externalPlan externalResult
  cases world.findExecutable name <;> rfl

theorem externalResult_of_none {name : String} (hfind : world.findExecutable name = none)
    (args : List String) (opened : Option Path) :
    world.externalResult name args opened = .error (.commandNotFound name) := by
  simp [externalResult, hfind]

theorem externalResult_of_some {name executable : String}
    (hfind : world.findExecutable name = some executable) (args : List String)
    (opened : Option Path) :
    world.externalResult name args opened =
      (world.startResult (name :: args) executable opened).mapError fun failure =>
        .spawn name failure.reason := by
  simp [externalResult, hfind]

theorem startResult_eq_ok_iff {argv : List String} {executable : String} {opened : Option Path}
    {code : Int} :
    world.startResult argv executable opened = .ok code ↔
      argv.any hasNul = false ∧
        ∃ out err, world.ending? executable opened = some (.exits out err code) := by
  unfold startResult
  by_cases hnul : argv.any hasNul
  · simp [hnul]
  · cases world.ending? executable opened with
    | none => simp [hnul]
    | some ending => cases ending <;> simp [hnul]

/-! ### Views of the events -/

theorem filterMap_shown_childSteps {α : Type} {view : Event → Option α}
    (hview : ∀ stream text, view (.wrote .child stream text) = none) (stream : Descriptor)
    (file : Option Handle) (text : String) :
    ((childSteps stream file text).flatMap Step.shown).filterMap view = [] := by
  unfold childSteps
  split
  · rfl
  · cases file with
    | none => simp [Step.shown, Event.isLogLine, hview]
    | some handle => rfl

theorem spawnsIn_externalEvents (world : World) (name : String) (args : List String)
    (selected : Descriptor) (file : Option Handle) :
    spawnsIn (world.externalEvents name args selected file) =
      (world.started? name args).toList.map fun executable =>
        ⟨name :: args, executable, (fileOn .stdout selected file).map Handle.name,
          (fileOn .stderr selected file).map Handle.name⟩ := by
  unfold externalEvents started? externalPlan startPlan
  cases world.findExecutable name with
  | none => simp [spawnsIn]
  | some executable =>
      by_cases hnul : (name :: args).any hasNul <;>
        simp [spawnsIn, hnul, Step.shown, Event.isLogLine, filterMap_shown_childSteps]

theorem recordsIn_externalEvents (world : World) (name : String) (args : List String)
    (selected : Descriptor) (file : Option Handle) :
    recordsIn (world.externalEvents name args selected file) =
      world.externalRecords name args (file.map Handle.path) := by
  unfold externalEvents externalRecords externalPlan startPlan
  cases world.findExecutable name with
  | none => rfl
  | some executable =>
      by_cases hnul : (name :: args).any hasNul <;>
        simp [recordsIn, hnul, Step.shown, Event.isLogLine, filterMap_shown_childSteps]

theorem childTextsIn_childSteps (heard stream : Descriptor) (file : Option Handle)
    (text : String) :
    String.join (childTextsIn heard ((childSteps stream file text).flatMap Step.shown)) =
      if stream = heard ∧ file = none then text else "" := by
  by_cases htext : text = ""
  · simp [htext, childTextsIn]
  · cases file with
    | some handle => simp [childSteps, childTextsIn, htext, Step.shown]
    | none =>
        by_cases hstream : stream = heard <;>
          simp [childSteps, childTextsIn, htext, hstream, Step.shown, Event.isLogLine]

theorem startText_of_nul {argv : List String} (hnul : argv.any hasNul) (executable : String)
    (opened : Option Path) (stream : Descriptor) :
    world.startText argv executable opened stream = "" :=
  if_pos hnul

/-- A stream without a file is inherited. -/
theorem childTextsIn_externalEvents (world : World) (name : String) (args : List String)
    (selected : Descriptor) (file : Option Handle) (stream : Descriptor) :
    String.join (childTextsIn stream (world.externalEvents name args selected file)) =
      if fileOn stream selected file = none
      then world.externalText name args (file.map Handle.path) stream else "" := by
  have hchild := childTextsIn_childSteps stream
  simp only [childTextsIn] at hchild
  unfold externalEvents externalText externalPlan startPlan
  cases world.findExecutable name with
  | none => simp [childTextsIn]
  | some executable =>
      by_cases hnul : (name :: args).any hasNul
      · simp [childTextsIn, hnul, startText_of_nul, Step.shown]
      · cases stream <;> simp [childTextsIn, hchild, hnul, Step.shown, Event.isLogLine]

/-! ### The file -/

@[simp]
theorem fileOn_none (stream selected : Descriptor) : fileOn stream selected none = none :=
  ite_self none

theorem fileOn_self (selected : Descriptor) (file : Option Handle) :
    fileOn selected selected file = file :=
  if_pos rfl

theorem fileOn_of_ne {stream selected : Descriptor} (hne : stream ≠ selected)
    (file : Option Handle) : fileOn stream selected file = none :=
  if_neg hne

section TextAfter

variable {logging : Logging} {handle : Handle} {base : String}

theorem foldl_textAfter_childSteps_none (logging : Logging) (path : Path) (base : String)
    (stream : Descriptor) (text : String) :
    (childSteps stream none text).foldl (Step.textAfter logging path) base = base := by
  unfold childSteps
  split <;> rfl

/-- A text goes behind what the open file holds, unless it is written over a start. -/
theorem foldl_textAfter_childSteps (hend : handle.append ∨ base = "") (stream : Descriptor)
    (text : String) :
    (childSteps stream (some handle) text).foldl (Step.textAfter logging handle.path) base =
      base ++ text := by
  by_cases htext : text = ""
  · simp [htext]
  · simp [childSteps, htext, Step.textAfter, FileSystem.overwrite_of_end hend]

theorem textAfter_log {path : Path} (hlog : logging.path? ≠ some path) (text : String)
    (record : Record) : Step.textAfter logging path text (.log record) = text := by
  cases logging with
  | file threshold logPath =>
      have hne : logPath ≠ path := by simpa [Logging.path?] using hlog
      simp [Step.textAfter, hne]
  | traceOnly | unset | stream threshold => rfl

/-- Only the selected stream goes to the file. -/
theorem foldl_textAfter_externalPlan (hend : handle.append ∨ base = "")
    (hlog : logging.path? ≠ some handle.path) (world : World) (name : String)
    (args : List String) (selected : Descriptor) :
    (world.externalPlan name args selected (some handle)).steps.foldl
        (Step.textAfter logging handle.path) base =
      base ++ world.externalText name args (some handle.path) selected := by
  unfold externalPlan startPlan externalText
  cases world.findExecutable name with
  | none => simp
  | some executable =>
      dsimp only
      rw [List.foldl_cons, textAfter_log hlog, List.foldl_append, List.foldl_cons, List.foldl_nil,
        textAfter_log hlog]
      by_cases hnul : (name :: args).any hasNul
      · simp [hnul, startText_of_nul]
      · have hemit : ∀ event, Step.textAfter logging handle.path base (.emit event) = base :=
          fun _ => rfl
        simp only [hnul, Bool.false_eq_true, if_false, List.foldl_cons, hemit, List.foldl_append,
          Option.map_some]
        cases selected with
        | stdout =>
            rw [fileOn_self, fileOn_of_ne (by decide), foldl_textAfter_childSteps hend,
              foldl_textAfter_childSteps_none]
        | stderr =>
            rw [fileOn_self, fileOn_of_ne (by decide), foldl_textAfter_childSteps_none,
              foldl_textAfter_childSteps hend]

end TextAfter

end World

end LineShell
