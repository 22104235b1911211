import LineShell.Proofs.Command.Redirection
import LineShell.Proofs.World.Running

/-!
# Redirecting an external program

The redirect of an external command is opened before the program is looked up, also when the target
lies on the search path or is the program itself. Nothing that is looked up changes by that: with
and without a redirect the same program is started, and the runs differ in where the text of one
stream goes. That is so as long as the system starts the program: it may refuse one whose own file
is open for writing, and then a redirect onto that file keeps the program from running.
-/

namespace LineShell

namespace World

variable {world opened : World} {registry : Registry} {name : String} {args : List String}
  {redirect : Redirect} {path : Path} {command : Command} {file : Option Handle}

def externalStatus : Except ShellError Int → Int
  | .ok code => code
  | .error (.commandNotFound _) => 127
  | .error _ => 126

def reportSteps : Except ShellError Int → List Step
  | .ok _ => []
  | .error error => [.say .stderr error.message]

/-- What is done for a command that is passed on to a program, but for opening its redirect. -/
def passedSteps (world : World) (command : Command) (file : Option Handle) : List Step :=
  (world.externalPlan command.name command.args command.selected file).steps ++
    reportSteps (world.externalResult command.name command.args (file.map Handle.path))

def passedEvents (world : World) (command : Command) (file : Option Handle) : List Event :=
  .logged command.passedRecord :: (world.passedSteps command file).flatMap Step.shown

/-! ### One run -/

theorem conclude_external {plan : Plan (Except ShellError Int)} {target : Option Path}
    (hanswer : plan.answer = world.externalResult name args target) :
    plan.conclude Route.external.handlers =
      ⟨.ok (.status (externalStatus (world.externalResult name args target))),
        plan.steps ++ reportSteps (world.externalResult name args target)⟩ := by
  obtain ⟨answer, steps⟩ := plan
  dsimp only at hanswer
  subst hanswer
  unfold externalResult
  cases world.findExecutable name with
  | none => rfl
  | some executable =>
      dsimp only
      cases world.startResult (name :: args) executable target with
      | error failure => rfl
      | ok code => exact congrArg (Plan.mk _) (List.append_nil steps).symm

/-- A command that is passed on has the status that its program's end becomes: it is recorded, its
redirect is opened, and then the program is looked up. -/
theorem dispatch_external (world : World) (command : Command)
    (hname : command.name ∉ specialNames) (hregistry : registry.get? command.name = none)
    {opening : List Step} (hopen : world.openPlan command.redirect = ⟨.ok file, opening⟩) :
    world.dispatch registry command =
      (.ok (.status (externalStatus
          (world.externalResult command.name command.args (file.map Handle.path)))),
        world.takeAll
          (.log command.passedRecord :: (opening ++ world.passedSteps command file))) := by
  obtain ⟨hexit, hcd⟩ := not_mem_specialNames_iff.mp hname
  have hanswer : (world.attemptPlan registry command).answer =
      world.externalResult command.name command.args (file.map Handle.path) := by
    rw [attemptPlan_of_external world hcd hregistry, redirectedPlan, hopen]
    exact answer_externalPlan _ _ _ _ _
  have hsteps : (world.attemptPlan registry command).steps = .log command.passedRecord ::
      (opening ++
        (world.externalPlan command.name command.args command.selected file).steps) := by
    rw [attemptPlan_of_external world hcd hregistry, redirectedPlan, hopen]
    rfl
  rw [dispatch_eq, dispatchPlan, if_neg hexit, route_eq_external_iff.mpr ⟨hcd, hregistry⟩,
    conclude_external hanswer, hsteps, follow, passedSteps]
  simp only [List.cons_append, List.append_assoc]

theorem passedSteps_serve (hopens : world.Opens command.redirect file) :
    ∀ step ∈ world.passedSteps command file,
      step.Serves world command.redirect ∨ ∃ text, step = .say .stderr text := by
  refine List.forall_mem_append.mpr ⟨fun step hstep => ?_, ?_⟩
  · exact .inl (externalPlan_serves hopens world _ _ _ step hstep)
  · cases world.externalResult command.name command.args (file.map Handle.path) with
    | ok code => exact List.forall_mem_nil _
    | error error => exact List.forall_mem_singleton.mpr (.inr ⟨_, rfl⟩)

/-! ### The program's own file -/

/-- A file that is open does not keep the program of a name from starting: it is not the file of the
program, or the system starts the program all the same. -/
def Unhindered (world : World) (name : String) (path : Path) : Prop :=
  ∀ executable program, world.findExecutable name = some executable →
    world.programAt? executable = some program → world.Denotes executable path →
      program.busy = program.usual

theorem isOpen_of_not_denotes {executable : String} (hnul : hasNul executable = false)
    (hdenotes : ¬ world.Denotes executable path) :
    world.isOpen (some path) executable = world.isOpen none executable := by
  unfold isOpen
  cases htarget : world.files.targetAt world.cwd executable with
  | error error => rfl
  | ok target =>
      have hne : path ≠ target := by
        rintro rfl
        exact hdenotes ⟨hnul, htarget⟩
      simp [Except.toOption, hne]

theorem Unhindered.ending?_eq (hunhindered : world.Unhindered name path) {executable : String}
    (hfind : world.findExecutable name = some executable) :
    world.ending? executable (some path) = world.ending? executable none := by
  unfold World.ending?
  cases hprogram : world.programAt? executable with
  | none => rfl
  | some program =>
      by_cases hdenotes : world.Denotes executable path
      · simp [hunhindered executable program hfind hprogram hdenotes]
      · have hnul : hasNul executable = false := by
          unfold programAt? at hprogram
          split at hprogram
          · cases hprogram
          · simpa using ‹¬ hasNul executable›
        rw [isOpen_of_not_denotes hnul hdenotes]

theorem Unhindered.externalResult_eq (hunhindered : world.Unhindered name path)
    (args : List String) :
    world.externalResult name args (some path) = world.externalResult name args none := by
  unfold externalResult startResult
  cases hfind : world.findExecutable name with
  | none => rfl
  | some executable => simp only [hunhindered.ending?_eq hfind]

theorem Unhindered.externalRecords_eq (hunhindered : world.Unhindered name path)
    (args : List String) :
    world.externalRecords name args (some path) = world.externalRecords name args none := by
  unfold externalRecords startResult
  cases hfind : world.findExecutable name with
  | none => rfl
  | some executable => simp only [hunhindered.ending?_eq hfind]

theorem Unhindered.externalText_eq (hunhindered : world.Unhindered name path) (args : List String) :
    world.externalText name args (some path) = world.externalText name args none := by
  unfold externalText startText
  cases hfind : world.findExecutable name with
  | none => rfl
  | some executable => simp only [hunhindered.ending?_eq hfind]

/-! ### Two runs -/

/-- Two runs of one external command from one world, the second redirected to the file at a path.
Both start the same executable or none, and there is one text for each stream. -/
structure RunsAlike (world plain redirected : World) (name : String) (args : List String)
    (redirect : Redirect) (path : Path) (start : Option String) (texts : Descriptor → String) :
    Prop where
  spawns_plain : plain.spawns = world.spawns ++ start.toList.map fun executable =>
    ⟨name :: args, executable, none, none⟩
  /-- the program has the file on the selected stream and inherits the other -/
  spawns_redirected : redirected.spawns = world.spawns ++ start.toList.map fun executable =>
    ⟨name :: args, executable, if redirect.descriptor = .stdout then some redirect.path else none,
      if redirect.descriptor = .stderr then some redirect.path else none⟩
  /-- the records tell of the same start, also if it is refused -/
  records : redirected.records.filter (·.component = .output) =
    plain.records.filter (·.component = .output)
  diagnostics : redirected.diagnostics = plain.diagnostics
  inherited : ∀ stream, plain.childText stream = world.childText stream ++ texts stream
  selected : redirected.childText redirect.descriptor = world.childText redirect.descriptor
  other : ∀ stream, stream ≠ redirect.descriptor →
    redirected.childText stream = plain.childText stream
  target : world.logging.path? ≠ some path → redirected.files.find? path =
    some (.file ⟨(if redirect.append then world.files.textAt path else "") ++
      texts redirect.descriptor, (world.files.sight path).2⟩)
  untouched : ∀ path, world.logging.path? ≠ some path →
    plain.files.find? path = world.files.find? path
  elsewhere : ∀ elsewhere, elsewhere ≠ path → world.logging.path? ≠ some elsewhere →
    redirected.files.find? elsewhere = plain.files.find? elsewhere
  cwd : redirected.cwd = plain.cwd
  env : redirected.env = plain.env

/-- A view without the report of an error is a view of the program's run and of the record before
it. -/
theorem filterMap_passedEvents {α : Type} {view : Event → Option α}
    (hreport : ∀ text, view (.wrote .shell .stderr text) = none) (world : World)
    (command : Command) (file : Option Handle) :
    (world.passedEvents command file).filterMap view =
      (view (.logged command.passedRecord)).toList ++
        (world.externalEvents command.name command.args command.selected file).filterMap
          view := by
  have hreported : ((reportSteps (world.externalResult command.name command.args
      (file.map Handle.path))).flatMap Step.shown).filterMap view = [] := by
    cases world.externalResult command.name command.args (file.map Handle.path) with
    | error error => simp [reportSteps, Step.say, Step.shown, Event.isLogLine, hreport]
    | ok code => rfl
  rw [passedEvents, passedSteps, List.filterMap_cons, List.flatMap_append,
    List.filterMap_append, hreported, List.append_nil, externalEvents]
  cases view (.logged command.passedRecord) <;> rfl

theorem childText_passedEvents (world : World) (command : Command) (file : Option Handle)
    (stream : Descriptor) :
    String.join (childTextsIn stream (world.passedEvents command file)) =
      if fileOn stream command.selected file = none
      then world.externalText command.name command.args (file.map Handle.path) stream
      else "" := by
  rw [childTextsIn, filterMap_passedEvents fun _ => rfl]
  exact childTextsIn_externalEvents world command.name command.args _ file stream

theorem spawnsIn_passedEvents (world : World) (command : Command) (file : Option Handle) :
    spawnsIn (world.passedEvents command file) =
      (world.started? command.name command.args).toList.map fun executable =>
        ⟨command.name :: command.args, executable,
          (fileOn .stdout command.selected file).map Handle.name,
          (fileOn .stderr command.selected file).map Handle.name⟩ := by
  rw [spawnsIn, filterMap_passedEvents fun _ => rfl]
  exact spawnsIn_externalEvents world command.name command.args _ file

theorem recordsIn_passedEvents (world : World) (command : Command) (file : Option Handle) :
    recordsIn (world.passedEvents command file) =
      command.passedRecord ::
        world.externalRecords command.name command.args (file.map Handle.path) := by
  rw [recordsIn, filterMap_passedEvents fun _ => rfl]
  exact congrArg _ (recordsIn_externalEvents world command.name command.args _ file)

theorem diagnostics_passedEvents (hopens : world.Opens command.redirect file) :
    (world.passedEvents command file).filterMap Event.diagnostic? =
      ((reportSteps (world.externalResult command.name command.args
        (file.map Handle.path))).flatMap Step.shown).filterMap Event.diagnostic? := by
  have hnothing := (externalPlan_serves hopens world command.name command.args
    command.selected).diagnostics_eq_nil
  rw [passedEvents, passedSteps, List.filterMap_cons_none (by rfl), List.flatMap_append,
    List.filterMap_append, hnothing, List.nil_append]

theorem dispatch_external_plain (world : World) (args : List String)
    (hname : name ∉ specialNames) (hregistry : registry.get? name = none) :
    ∃ after, world.dispatch registry ⟨name, args, none⟩ =
        (.ok (.status (externalStatus (world.externalResult name args none))), after) ∧
      Shows (world.passedEvents ⟨name, args, none⟩ none) world after ∧
      TouchesOnly (fun _ _ => False) world after := by
  have hdispatch := dispatch_external world ⟨name, args, none⟩ hname hregistry rfl
  refine ⟨_, hdispatch, shows_takeAll world _, touchesOnly_takeAll world ?_⟩
  refine List.forall_mem_cons.mpr ⟨trivial, fun step hstep => ?_⟩
  rcases passedSteps_serve (.none none) step hstep with hserves | ⟨text, rfl⟩
  · exact hserves.within nofun
  · trivial

/-- With a redirect to a regular file that file is touched, and takes the text of the selected
stream. -/
theorem dispatch_external_redirected (world : World) (args : List String)
    (hname : name ∉ specialNames) (hregistry : registry.get? name = none)
    (hfile : world.DenotesFile redirect.path path) :
    ∃ after, world.dispatch registry ⟨name, args, some redirect⟩ =
        (.ok (.status (externalStatus (world.externalResult name args (some path)))), after) ∧
      Shows (world.passedEvents ⟨name, args, some redirect⟩
        (some ⟨redirect.path, path, redirect.append⟩)) world after ∧
      TouchesOnly (fun other _ => other = path) world after ∧
      (world.logging.path? ≠ some path → after.files.find? path =
        some (.file ⟨(if redirect.append then world.files.textAt path else "") ++
          world.externalText name args (some path) redirect.descriptor,
          (world.files.sight path).2⟩)) := by
  have hopens : world.Opens (some redirect) (some ⟨redirect.path, path, redirect.append⟩) :=
    .some hfile.1
  have hdispatch := dispatch_external world ⟨name, args, some redirect⟩ hname
    hregistry (openPlan_of_denotes hfile.1)
  refine ⟨_, hdispatch, shows_takeAll world _, touchesOnly_takeAll world ?_, fun hlog => ?_⟩
  · refine List.forall_mem_cons.mpr ⟨trivial, List.forall_mem_cons.mpr ⟨rfl, fun step hstep => ?_⟩⟩
    rcases passedSteps_serve hopens step hstep with hserves | ⟨text, rfl⟩
    · refine hserves.within ?_
      rintro _ target ⟨⟩ hdenotes
      exact hfile.1.unique hdenotes
    · trivial
  · have hlogged := logged_log world (Command.passedRecord ⟨name, args, some redirect⟩)
    have hregular := (hlogged.alike.denotesFile_iff.mpr hfile).2
    have htext := FileSystem.textAt_congr (hlogged.find? path hlog)
    have hsight := FileSystem.sight_eq_of_outline_eq hlogged.outline
    have hend : (⟨redirect.path, path, redirect.append⟩ : Handle).append ∨
        (if redirect.append then world.files.textAt path else "") = "" := by
      cases redirect.append <;> simp
    have hheld : ((world.take (.log (Command.passedRecord ⟨name, args, some redirect⟩))).take
        (.openFile path redirect.append)).files.find? path =
          some (.file ⟨if redirect.append then world.files.textAt path else "",
            (world.files.sight path).2⟩) := by
      have hopened := FileSystem.find?_openFile_self hregular redirect.append
      rwa [htext, hsight] at hopened
    have hreport : ∀ result text, (reportSteps result).foldl
        (Step.textAfter world.logging path) text = text := by
      intro result text
      cases result <;> rfl
    rw [takeAll_cons, List.cons_append, takeAll_cons, List.nil_append,
      find?_takeAll hheld, logging_take, logging_take, passedSteps,
      List.foldl_append, hreport]
    have htexts := foldl_textAfter_externalPlan hend hlog world name args redirect.descriptor
    exact congrArg (fun text => some (Node.file ⟨text, _⟩)) htexts

/-- A program that is redirected onto its own file, and that the system does not start while the
file is open, fails to start: the file is created or truncated all the same. -/
theorem dispatch_redirected_busy (world : World) (args : List String)
    (hname : name ∉ specialNames) (hregistry : registry.get? name = none)
    (hfile : world.DenotesFile redirect.path path) {executable : String} {program : Program}
    {error : SystemError} (hfind : world.findExecutable name = some executable)
    (hprogram : world.programAt? executable = some program) (hown : world.Denotes executable path)
    (hbusy : program.busy = .failsToStart error) (hnul : (name :: args).any hasNul = false) :
    ∃ after, world.dispatch registry ⟨name, args, some redirect⟩ = (.ok (.status 126), after) ∧
      after.diagnostics = world.diagnostics ++ [name ++ ": " ++ error.text ++ "\n"] ∧
      (world.logging.path? ≠ some path → after.files.textAt path =
        if redirect.append then world.files.textAt path else "") := by
  have hopen : world.isOpen (some path) executable = true := by
    simp [isOpen, hown.2, Except.toOption]
  have hending : world.ending? executable (some path) = some (.failsToStart error) := by
    simp [ending?, hprogram, hopen, hbusy]
  have hresult : world.externalResult name args (some path) = .error (.spawn name error.text) := by
    rw [externalResult_of_some hfind, startResult, hending]
    simp [hnul, Except.mapError, Failure.reason]
  have htext : world.externalText name args (some path) redirect.descriptor = "" := by
    simp [externalText, hfind, startText, hending, hnul, Ending.text]
  obtain ⟨after, hdispatch, hshows, _, htarget⟩ :=
    dispatch_external_redirected world args hname hregistry hfile
  rw [hresult] at hdispatch
  refine ⟨after, hdispatch, ?_, fun hlog => ?_⟩
  · rw [hshows.diagnostics, diagnostics_passedEvents (.some hfile.1), Option.map_some, hresult]
    rfl
  · rw [FileSystem.textAt_of_find? (htarget hlog), htext, String.append_empty]

end World

end LineShell
