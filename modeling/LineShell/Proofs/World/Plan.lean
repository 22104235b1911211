import LineShell.Proofs.World.Frame

/-!
# Plans

What an operation does to a world is decided by what the world is before: the plan of the operation
is its answer and its steps, and the operation follows the plan. So whatever is to be known of an
operation can be read off its steps, and of these it is said once which there can be (`Serves`).
-/

namespace LineShell

structure Plan (α : Type) where
  answer : α
  steps : List Step

namespace Plan

variable {α β : Type}

def map (f : α → β) (plan : Plan α) : Plan β := ⟨f plan.answer, plan.steps⟩

/-- The plan with other steps before its own. -/
def after (plan : Plan α) (first : List Step) : Plan α := ⟨plan.answer, first ++ plan.steps⟩

/-- Reports an error that is handled. -/
def conclude (handlers : List (ErrorKind × Int)) (plan : Plan (Except ShellError Int)) :
    Plan (Except ShellError Outcome) :=
  match plan.answer with
  | .ok code => ⟨.ok (.status code), plan.steps⟩
  | .error error =>
    match handlers.find? fun handler => error.isA handler.1 with
    | some (_, code) => ⟨.ok (.status code), plan.steps ++ [.say .stderr error.message]⟩
    | none => ⟨.error error, plan.steps⟩

end Plan

/-- A program as most systems run it: they refuse to start it while its file is open for writing. -/
def Program.exits (stdout stderr : String) (code : Int) : Program :=
  ⟨.exits stdout stderr code, .failsToStart ⟨26, "Text file busy"⟩⟩

/-- The text that a program writes on a stream before it ends. -/
def Ending.text : Ending → Descriptor → String
  | .exits out _ _, .stdout => out
  | .exits _ err _, .stderr => err
  | _, _ => ""

namespace Command

/-- The command as it is recorded when it is dispatched, behind the word for its route. -/
def note (command : Command) (route : String) : String :=
  route ++ (command.name ++ " " ++ Text.quotedList command.args ++ " redirect=" ++
    Redirect.describeOption command.redirect)

def passedRecord (command : Command) : Record := ⟨.debug, .execution, command.note "external "⟩

/-- The stream that a redirect of the command selects. -/
def selected (command : Command) : Descriptor :=
  (command.redirect.map Redirect.descriptor).getD .stdout

@[simp]
theorem selected_some (name : String) (args : List String) (redirect : Redirect) :
    selected ⟨name, args, some redirect⟩ = redirect.descriptor := rfl

end Command

/-- The steps of an operation with a redirect, as long as it reports nothing: it may write to the
file that the redirect denotes, and on standard output. -/
inductive Step.Serves (world : World) (redirect : Option Redirect) : Step → Prop
  | log (record : Record) : Serves world redirect (.log record)
  | said (text : String) : Serves world redirect (.say .stdout text)
  | spawned (spawn : Spawn) : Serves world redirect (.emit (.spawned spawn))
  | heard (stream : Descriptor) (text : String) :
      Serves world redirect (.emit (.wrote .child stream text))
  | openFile {spec : Redirect} {path : Path} (hspec : redirect = some spec)
      (hdenotes : world.Denotes spec.path path) :
      Serves world redirect (.openFile path spec.append)
  | write {spec : Redirect} {path : Path} (hspec : redirect = some spec)
      (hdenotes : world.Denotes spec.path path) (text : String) :
      Serves world redirect (.write path spec.append text)

def Plan.Serves {α : Type} (plan : Plan α) (world : World) (redirect : Option Redirect) : Prop :=
  ∀ step ∈ plan.steps, step.Serves world redirect

theorem Step.Serves.within {world : World} {redirect : Option Redirect} {step : Step}
    {touched : Path → Bool → Prop} (hserves : step.Serves world redirect)
    (htouched : ∀ spec path, redirect = some spec → world.Denotes spec.path path →
      touched path spec.append) : step.Within touched := by
  cases hserves with
  | log | said | spawned | heard => trivial
  | openFile hspec hdenotes | write hspec hdenotes => exact htouched _ _ hspec hdenotes

theorem Step.Serves.diagnostics_eq_nil {world : World} {redirect : Option Redirect} {step : Step}
    (hserves : step.Serves world redirect) : step.shown.filterMap Event.diagnostic? = [] := by
  cases hserves <;> rfl

theorem Plan.Serves.diagnostics_eq_nil {α : Type} {plan : Plan α} {world : World}
    {redirect : Option Redirect} (hserves : plan.Serves world redirect) :
    (plan.steps.flatMap Step.shown).filterMap Event.diagnostic? = [] := by
  refine List.filterMap_eq_nil_iff.mpr fun event hevent => ?_
  obtain ⟨step, hstep, hshown⟩ := List.mem_flatMap.mp hevent
  exact List.filterMap_eq_nil_iff.mp (hserves step hstep).diagnostics_eq_nil event hshown

namespace World

variable {world other before after : World} {redirect : Option Redirect} {command : Command}
  {registry : Registry}

def follow {α : Type} (world : World) (plan : Plan α) : α × World :=
  (plan.answer, world.takeAll plan.steps)

theorem follow_map {α β : Type} (world : World) (f : α → β) (plan : Plan α) :
    world.follow (plan.map f) = (f (world.follow plan).1, (world.follow plan).2) := rfl

theorem follow_after {α : Type} (world : World) (plan : Plan α) (first : List Step) :
    world.follow (plan.after first) = (world.takeAll first).follow plan := by
  rw [follow, Plan.after, takeAll_append, follow]

theorem conclude_follow (world : World) (handlers : List (ErrorKind × Int))
    (plan : Plan (Except ShellError Int)) :
    conclude handlers (world.follow plan) = world.follow (plan.conclude handlers) := by
  obtain ⟨answer, steps⟩ := plan
  cases answer with
  | ok code => rfl
  | error error =>
      unfold follow conclude Plan.conclude
      dsimp only
      cases handlers.find? fun handler : ErrorKind × Int => error.isA handler.1 with
      | none => rfl
      | some handler =>
          dsimp only
          rw [takeAll_append]
          rfl

/-! ### Files -/

/-- The path at which a path text lets a file be opened for writing, or why it does not. -/
def targetOf (world : World) (text : String) : Except Failure Path :=
  if hasNul text then .error .embeddedNul
  else (world.files.targetAt world.cwd text).mapError fun error => .system error (some text)

theorem targetOf_eq_ok_iff {text : String} {path : Path} :
    world.targetOf text = .ok path ↔ world.Denotes text path := by
  unfold targetOf Denotes
  cases hasNul text with
  | true => simp
  | false => cases world.files.targetAt world.cwd text <;> simp [Except.mapError]

theorem Alike.targetOf (halike : Alike before after) : after.targetOf = before.targetOf := by
  funext text
  rw [World.targetOf, halike.cwd, FileSystem.targetAt_congr halike.outline, World.targetOf]

theorem openTarget_eq (world : World) (text : String) (append : Bool) :
    world.openTarget text append = (world.targetOf text).map fun path =>
      (⟨text, path, append⟩, world.take (.openFile path append)) := by
  unfold openTarget targetOf
  split
  · rfl
  · cases world.files.targetAt world.cwd text <;> rfl

theorem writeTo_eq (world : World) (handle : Handle) (text : String) :
    world.writeTo handle text =
      if world.files.outline handle.path = some .full ∧ text ≠ "" then
        .error (.system .noSpace none)
      else .ok (world.take (.write handle.path handle.append text)) := by
  rw [writeTo, FileSystem.writeFile_eq]
  by_cases hfull : world.files.outline handle.path = some .full ∧ text ≠ ""
  · rw [if_pos hfull, if_pos hfull]
  · rw [if_neg hfull, if_neg hfull]
    rfl

def writePlan (world : World) (path text : String) (append : Bool) :
    Plan (Except ShellError Unit) :=
  let failed (failure : Failure) : Plan (Except ShellError Unit) :=
    ⟨.error (.write path failure.reason),
      [.log ⟨.warning, .output, "cannot write to " ++ path ++ ": " ++ failure.message⟩]⟩
  match world.targetOf path with
  | .error failure => failed failure
  | .ok target =>
    if world.files.outline target = some .full ∧ text ≠ "" then
      (failed (.system .noSpace none)).after [.openFile target append]
    else ⟨.ok (), [.openFile target append, .write target append text]⟩

theorem writeOutput_eq (world : World) (path text : String) (append : Bool) :
    world.writeOutput path text append = world.follow (world.writePlan path text append) := by
  unfold writeOutput writePlan
  rw [openTarget_eq]
  cases world.targetOf path with
  | error failure => rfl
  | ok target =>
      have hfull : (world.take (.openFile target append)).files.outline target = some .full ↔
          world.files.outline target = some .full :=
        world.files.outline_openFile_eq_full_iff target append
      simp only [Except.map, writeTo_eq, hfull]
      by_cases hrefused : world.files.outline target = some .full ∧ text ≠ ""
      · rw [if_pos hrefused, if_pos hrefused]
        rfl
      · rw [if_neg hrefused, if_neg hrefused]
        rfl

theorem writePlan_serves (world : World) (redirect : Redirect) (text : String) :
    (world.writePlan redirect.path text redirect.append).Serves world (some redirect) := by
  unfold writePlan Plan.Serves
  cases htarget : world.targetOf redirect.path with
  | error failure => exact List.forall_mem_singleton.mpr (.log _)
  | ok target =>
      have hopen := Step.Serves.openFile rfl (targetOf_eq_ok_iff.mp htarget)
      dsimp only
      split
      · exact List.forall_mem_cons.mpr ⟨hopen, List.forall_mem_singleton.mpr (.log _)⟩
      · refine List.forall_mem_cons.mpr ⟨hopen, List.forall_mem_singleton.mpr ?_⟩
        exact .write rfl (targetOf_eq_ok_iff.mp htarget) text

theorem Alike.writePlan (halike : Alike before after) : after.writePlan = before.writePlan := by
  funext path text append
  rw [World.writePlan, halike.targetOf, halike.outline, World.writePlan]

def openPlan (world : World) : Option Redirect → Plan (Except ShellError (Option Handle))
  | none => ⟨.ok none, []⟩
  | some redirect =>
    match world.targetOf redirect.path with
    | .error failure =>
      ⟨.error (.write redirect.path failure.reason), [.log ⟨.warning, .output,
        "cannot open redirect target " ++ redirect.path ++ ": " ++ failure.message⟩]⟩
    | .ok path =>
      ⟨.ok (some ⟨redirect.path, path, redirect.append⟩), [.openFile path redirect.append]⟩

theorem openRedirect_eq (world : World) (redirect : Option Redirect) :
    world.openRedirect redirect = world.follow (world.openPlan redirect) := by
  cases redirect with
  | none => rfl
  | some redirect =>
      unfold openRedirect openPlan
      dsimp only
      rw [openTarget_eq]
      cases world.targetOf redirect.path <;> rfl

theorem openPlan_serves (world : World) (redirect : Option Redirect) :
    (world.openPlan redirect).Serves world redirect := by
  cases redirect with
  | none => exact List.forall_mem_nil _
  | some redirect =>
      unfold openPlan Plan.Serves
      dsimp only
      cases htarget : world.targetOf redirect.path with
      | error failure => exact List.forall_mem_singleton.mpr (.log _)
      | ok target =>
          exact List.forall_mem_singleton.mpr (.openFile rfl (targetOf_eq_ok_iff.mp htarget))

/-- The file, if there is one, is what the redirect opens. -/
inductive Opens (world : World) : Option Redirect → Option Handle → Prop
  | none (redirect : Option Redirect) : Opens world redirect none
  | some {redirect : Redirect} {path : Path} (hdenotes : world.Denotes redirect.path path) :
      Opens world (some redirect) (some ⟨redirect.path, path, redirect.append⟩)

theorem openPlan_ok {file : Option Handle}
    (hopen : (world.openPlan redirect).answer = .ok file) :
    (redirect = none ∧ file = none) ∨ ∃ spec path, redirect = some spec ∧
      world.Denotes spec.path path ∧ file = some ⟨spec.path, path, spec.append⟩ := by
  cases redirect with
  | none =>
      cases hopen
      exact .inl ⟨rfl, rfl⟩
  | some redirect =>
      unfold openPlan at hopen
      dsimp only at hopen
      cases htarget : world.targetOf redirect.path with
      | error failure =>
          rw [htarget] at hopen
          cases hopen
      | ok target =>
          rw [htarget] at hopen
          cases hopen
          exact .inr ⟨redirect, target, rfl, targetOf_eq_ok_iff.mp htarget, rfl⟩

theorem opens_of_openPlan {file : Option Handle}
    (hopen : (world.openPlan redirect).answer = .ok file) : world.Opens redirect file := by
  obtain ⟨rfl, rfl⟩ | ⟨spec, path, rfl, hdenotes, rfl⟩ := openPlan_ok hopen
  · exact .none none
  · exact .some hdenotes

/-- The file that a redirect opens, if there is a redirect and it opens one. -/
def target? (world : World) (redirect : Option Redirect) : Option Path :=
  redirect.bind fun redirect => (world.files.targetAt world.cwd redirect.path).toOption

theorem SearchesAlike.target? (halike : SearchesAlike before after) :
    after.target? = before.target? := by
  funext redirect
  simp only [World.target?, halike.cwd, FileSystem.toOption_targetAt_congr halike.sight]

theorem map_path_of_openPlan {file : Option Handle}
    (hopen : (world.openPlan redirect).answer = .ok file) :
    file.map Handle.path = world.target? redirect := by
  obtain ⟨rfl, rfl⟩ | ⟨spec, path, rfl, hdenotes, rfl⟩ := openPlan_ok hopen
  · rfl
  · rw [World.target?, Option.bind_some, hdenotes.2]
    rfl

theorem Alike.openPlan (halike : Alike before after) : after.openPlan = before.openPlan := by
  funext redirect
  rcases redirect with _ | redirect
  · rfl
  · rw [World.openPlan, halike.targetOf, World.openPlan]

/-! ### Builtins -/

def deliverPlan (world : World) (text : String) : Option Redirect → Plan (Except ShellError Unit)
  | none => ⟨.ok (), [.say .stdout text]⟩
  | some ⟨.stdout, path, append⟩ => world.writePlan path (text ++ "\n") append
  | some ⟨.stderr, path, append⟩ => (world.writePlan path "" append).after [.say .stdout text]

theorem deliver_eq (world : World) (text : String) (redirect : Option Redirect) :
    world.deliver text redirect = world.follow (world.deliverPlan text redirect) := by
  rcases redirect with _ | ⟨_ | _, path, append⟩
  · rfl
  · exact world.writeOutput_eq path (text ++ "\n") append
  · rw [deliverPlan, follow_after]
    exact writeOutput_eq _ path "" append

theorem deliverPlan_serves (world : World) (text : String) (redirect : Option Redirect) :
    (world.deliverPlan text redirect).Serves world redirect := by
  rcases redirect with _ | ⟨_ | _, path, append⟩
  · exact List.forall_mem_singleton.mpr (.said text)
  · exact world.writePlan_serves ⟨.stdout, path, append⟩ (text ++ "\n")
  · exact List.forall_mem_cons.mpr
      ⟨.said text, world.writePlan_serves ⟨.stderr, path, append⟩ ""⟩

theorem Alike.deliverPlan (halike : Alike before after) :
    after.deliverPlan = before.deliverPlan := by
  funext text redirect
  rcases redirect with _ | ⟨_ | _, path, append⟩ <;>
    simp only [World.deliverPlan, halike.writePlan]

/-- What is done with the answer of a builtin. -/
def builtinPlan (world : World) (redirect : Option Redirect) :
    Except ShellError String → Plan (Except ShellError Int)
  | .error error => ⟨.error error, []⟩
  | .ok text => (world.deliverPlan text redirect).map fun result => result.map fun _ => 0

theorem runBuiltin_eq (world : World) (registry : Registry) (builtin : Builtin)
    (command : Command) :
    world.runBuiltin registry builtin command =
      world.follow
        (world.builtinPlan command.redirect (registry.ask builtin world command.args)) := by
  unfold runBuiltin builtinPlan
  cases registry.ask builtin world command.args with
  | error error => rfl
  | ok text =>
      dsimp only
      rw [follow_map, ← deliver_eq]
      rcases world.deliver text command.redirect with ⟨error | done, after⟩ <;> rfl

theorem builtinPlan_serves (world : World) (redirect : Option Redirect)
    (answer : Except ShellError String) :
    (world.builtinPlan redirect answer).Serves world redirect := by
  cases answer with
  | error error => exact List.forall_mem_nil _
  | ok text => exact world.deliverPlan_serves text redirect

theorem Alike.builtinPlan (halike : Alike before after) :
    after.builtinPlan = before.builtinPlan := by
  funext redirect answer
  cases answer <;> simp only [World.builtinPlan, halike.deliverPlan]

/-! ### `cd` -/

def cdPlan (world : World) (args : List String) : Plan (Except ShellError Int) :=
  match world.cdTarget args with
  | .error error => ⟨.error error, []⟩
  | .ok target =>
    match world.placeAt target with
    | .error failure =>
      ⟨.error (.noSuchDirectory (args.head?.getD target)), [.log ⟨.debug, .builtins,
        "chdir to " ++ Text.quoted target ++ " failed: " ++ failure.message⟩]⟩
    | .ok place =>
      ⟨.ok 0, [.move place, .log ⟨.debug, .builtins, "working directory is now " ++ target⟩]⟩

theorem runCd_eq (world : World) (args : List String) :
    world.runCd args = world.follow (world.cdPlan args) := by
  unfold runCd changeDirectory cdPlan
  cases world.cdTarget args with
  | error error => rfl
  | ok target =>
      dsimp only
      cases world.placeAt target <;> rfl

theorem Alike.cdPlan (halike : Alike before after) : after.cdPlan = before.cdPlan := by
  have htarget : after.cdTarget = before.cdTarget := by
    funext args
    unfold cdTarget home? valueOf
    rw [halike.env]
  have hplace : after.placeAt = before.placeAt := by
    funext text
    unfold placeAt FileSystem.directoryAt
    rw [halike.cwd]
    simp only [FileSystem.descend_congr halike.outline]
  funext args
  rw [World.cdPlan, htarget, hplace, World.cdPlan]

/-! ### External programs -/

/-- How the start of an executable ends while a file is open, judged by what the files hold. -/
def startResult (world : World) (argv : List String) (executable : String)
    (opened : Option Path) : Except Failure Int :=
  if argv.any hasNul then .error .embeddedNul
  else match world.ending? executable opened with
    | none => .error (.system .noEntry (some executable))
    | some (.failsToStart error) => .error (.system error (some executable))
    | some (.refuses text) => .error (.other text)
    | some (.exits _ _ code) => .ok code

/-- The text that starting an executable makes it write on a stream while a file is open. -/
def startText (world : World) (argv : List String) (executable : String) (opened : Option Path)
    (stream : Descriptor) : String :=
  if argv.any hasNul then ""
  else ((world.ending? executable opened).map (Ending.text · stream)).getD ""

def childSteps (stream : Descriptor) (file : Option Handle) (text : String) : List Step :=
  if text = "" then []
  else match file with
    | none => [.emit (.wrote .child stream text)]
    | some handle => [.write handle.path handle.append text]

@[simp]
theorem childSteps_empty (stream : Descriptor) (file : Option Handle) :
    childSteps stream file "" = [] :=
  if_pos rfl

theorem childWrites_eq (world : World) (stream : Descriptor) (file : Option Handle)
    (text : String) :
    world.childWrites stream file text = world.takeAll (childSteps stream file text) := by
  unfold childWrites childSteps
  split
  · rfl
  · cases file with
    | none => rfl
    | some handle =>
        unfold writeTo
        dsimp only
        rw [takeAll_cons, take, FileSystem.written]
        cases world.files.writeFile handle.path handle.append text <;> rfl

def startPlan (world : World) (argv : List String) (executable : String) (selected : Descriptor)
    (file : Option Handle) : Plan (Except Failure Int) :=
  let stdout := fileOn .stdout selected file
  let stderr := fileOn .stderr selected file
  let text := world.startText argv executable (file.map Handle.path)
  ⟨world.startResult argv executable (file.map Handle.path),
    if argv.any hasNul then []
    else .emit (.spawned ⟨argv, executable, stdout.map Handle.name, stderr.map Handle.name⟩) ::
      (childSteps .stdout stdout (text .stdout) ++ childSteps .stderr stderr (text .stderr))⟩

theorem spawn_eq (world : World) (argv : List String) (executable : String)
    (selected : Descriptor) (file : Option Handle) :
    world.spawn argv executable selected file =
      world.follow (world.startPlan argv executable selected file) := by
  unfold spawn startPlan startResult startText
  split
  · rfl
  · cases world.ending? executable (file.map Handle.path) with
    | none => simp [follow, take]
    | some ending => cases ending <;> simp [follow, take, Ending.text, childWrites_eq]

/-- The record that comes before a start. -/
def startRecord (name executable : String) (args : List String) : Record :=
  ⟨.debug, .output,
    "running " ++ name ++ " (" ++ executable ++ ") with " ++ Text.quotedList args⟩

/-- The record of how a start ended. -/
def endRecord (name executable : String) : Except Failure Int → Record
  | .error failure =>
    ⟨.warning, .output, "could not start " ++ executable ++ ": " ++ failure.message⟩
  | .ok code => ⟨.debug, .output, name ++ " exited with status " ++ toString code⟩

def externalPlan (world : World) (name : String) (args : List String) (selected : Descriptor)
    (file : Option Handle) : Plan (Except ShellError Int) :=
  match world.findExecutable name with
  | none => ⟨.error (.commandNotFound name), []⟩
  | some executable =>
    let start := world.startPlan (name :: args) executable selected file
    ⟨start.answer.mapError fun failure => .spawn name failure.reason,
      .log (startRecord name executable args) ::
        (start.steps ++ [.log (endRecord name executable start.answer)])⟩

theorem SearchesAlike.startResult (halike : SearchesAlike before after) :
    after.startResult = before.startResult := by
  funext argv executable opened
  unfold World.startResult
  rw [halike.ending?]

theorem SearchesAlike.startPlan (halike : SearchesAlike before after) :
    after.startPlan = before.startPlan := by
  funext argv executable selected file
  unfold World.startPlan startText
  rw [halike.startResult, halike.ending?]

theorem SearchesAlike.externalPlan (halike : SearchesAlike before after) :
    after.externalPlan = before.externalPlan := by
  funext name args selected file
  unfold World.externalPlan
  rw [halike.findExecutable, halike.startPlan]

theorem runExternal_eq (world : World) (name : String) (args : List String)
    (selected : Descriptor) (file : Option Handle) :
    world.runExternal name args selected file =
      world.follow (world.externalPlan name args selected file) := by
  unfold runExternal externalPlan
  cases world.findExecutable name with
  | none => rfl
  | some executable =>
      have hnoted := logged_log world (startRecord name executable args)
      have hspawn := spawn_eq (world.log (startRecord name executable args)) (name :: args)
        executable selected file
      rw [hnoted.alike.searchesAlike.startPlan] at hspawn
      dsimp only
      rw [debug, ← startRecord, hspawn]
      cases hanswer : (world.startPlan (name :: args) executable selected file).answer <;>
        simp [follow, take, hanswer, endRecord, Except.mapError, debug, warn]

def redirectedPlan (world : World) (command : Command) : Plan (Except ShellError Int) :=
  let opening := world.openPlan command.redirect
  match opening.answer with
  | .error error => ⟨.error error, opening.steps⟩
  | .ok file =>
    (world.externalPlan command.name command.args command.selected file).after opening.steps

theorem childSteps_serve {file : Option Handle} (hopens : world.Opens redirect file)
    (stream : Descriptor) (text : String) :
    ∀ step ∈ childSteps stream file text, step.Serves world redirect := by
  unfold childSteps
  split
  · exact List.forall_mem_nil _
  · cases hopens with
    | none => exact List.forall_mem_singleton.mpr (.heard stream text)
    | some hdenotes => exact List.forall_mem_singleton.mpr (.write rfl hdenotes text)

theorem startPlan_serves {file : Option Handle} (hopens : world.Opens redirect file)
    (other : World) (argv : List String) (executable : String) (selected : Descriptor) :
    (other.startPlan argv executable selected file).Serves world redirect := by
  have hchild : ∀ stream text, ∀ step ∈ childSteps stream (fileOn stream selected file) text,
      step.Serves world redirect := by
    intro stream text
    refine childSteps_serve ?_ stream text
    unfold fileOn
    split
    · exact hopens
    · exact .none redirect
  unfold startPlan Plan.Serves
  dsimp only
  split
  · exact List.forall_mem_nil _
  · exact List.forall_mem_cons.mpr
      ⟨.spawned _, List.forall_mem_append.mpr ⟨hchild .stdout _, hchild .stderr _⟩⟩

theorem externalPlan_serves {file : Option Handle} (hopens : world.Opens redirect file)
    (other : World) (name : String) (args : List String) (selected : Descriptor) :
    (other.externalPlan name args selected file).Serves world redirect := by
  unfold externalPlan Plan.Serves
  cases other.findExecutable name with
  | none => exact List.forall_mem_nil _
  | some executable =>
      refine List.forall_mem_cons.mpr ⟨.log _, List.forall_mem_append.mpr ⟨?_, ?_⟩⟩
      · exact startPlan_serves hopens other (name :: args) executable selected
      · exact List.forall_mem_singleton.mpr (.log _)

theorem redirectedPlan_serves (world : World) (command : Command) :
    (world.redirectedPlan command).Serves world command.redirect := by
  have hopened := world.openPlan_serves command.redirect
  unfold redirectedPlan Plan.Serves
  dsimp only
  cases hopen : (world.openPlan command.redirect).answer with
  | error error => exact hopened
  | ok file =>
      have hexternal := externalPlan_serves (opens_of_openPlan hopen) world
      exact List.forall_mem_append.mpr ⟨hopened, hexternal _ _ _⟩

theorem Alike.redirectedPlan (halike : Alike before after) :
    after.redirectedPlan = before.redirectedPlan := by
  funext command
  rw [World.redirectedPlan, halike.openPlan, halike.searchesAlike.externalPlan,
    World.redirectedPlan]

theorem runRedirected_eq (world : World) (command : Command) :
    world.runRedirected command = world.follow (world.redirectedPlan command) := by
  have hopened : TouchesOnly (fun _ _ => True) world
      (world.takeAll (world.openPlan command.redirect).steps) :=
    touchesOnly_takeAll world fun step hstep =>
      (world.openPlan_serves command.redirect step hstep).within fun _ _ _ _ => trivial
  unfold runRedirected redirectedPlan
  rw [openRedirect_eq, follow]
  dsimp only
  cases (world.openPlan command.redirect).answer with
  | error error => rfl
  | ok file =>
      dsimp only
      rw [follow_after, runExternal_eq, hopened.searchesAlike.externalPlan, Command.selected]

/-! ### Commands -/

/-- What the builtin of a command answers where the command is dispatched, if there is a builtin. -/
def answer (world : World) (registry : Registry) (command : Command) :
    Option (Except ShellError String) :=
  (registry.get? command.name).map fun builtin =>
    registry.ask builtin (world.debug .execution (command.note "builtin ")) command.args

def attemptPlan (world : World) (registry : Registry) (command : Command) :
    Plan (Except ShellError Int) :=
  match registry.route command.name with
  | .cd => world.cdPlan command.args
  | .builtin builtin =>
    let noted := world.debug .execution (command.note "builtin ")
    (world.builtinPlan command.redirect (registry.ask builtin noted command.args)).after
      [.log ⟨.debug, .execution, command.note "builtin "⟩]
  | .external => (world.redirectedPlan command).after [.log command.passedRecord]

theorem attempt_eq (world : World) (registry : Registry) (command : Command) :
    world.attempt registry command = world.follow (world.attemptPlan registry command) := by
  unfold attempt attemptPlan
  dsimp only
  cases registry.route command.name with
  | cd => exact world.runCd_eq command.args
  | builtin builtin =>
      have hnoted := logged_log world ⟨.debug, .execution, command.note "builtin "⟩
      dsimp only
      rw [follow_after, ← hnoted.alike.builtinPlan]
      exact runBuiltin_eq _ registry builtin command
  | external =>
      have hnoted := logged_log world command.passedRecord
      dsimp only
      rw [follow_after, ← hnoted.alike.redirectedPlan]
      exact runRedirected_eq _ command

/-- Worlds that are alike can only be told apart by what a builtin sees in files. -/
theorem Alike.attemptPlan (halike : Alike before after)
    (hask : ∀ builtin, registry.route command.name = .builtin builtin →
      registry.ask builtin (after.debug .execution (command.note "builtin ")) command.args =
        registry.ask builtin (before.debug .execution (command.note "builtin ")) command.args) :
    after.attemptPlan registry command = before.attemptPlan registry command := by
  unfold World.attemptPlan
  cases hroute : registry.route command.name with
  | cd => simp only [halike.cdPlan]
  | builtin builtin => simp only [halike.builtinPlan, hask builtin hroute]
  | external => simp only [halike.redirectedPlan]

def dispatchPlan (world : World) (registry : Registry) (command : Command) :
    Plan (Except ShellError Outcome) :=
  if command.name = "exit" then ⟨.ok (.exit 0), []⟩
  else (world.attemptPlan registry command).conclude (registry.route command.name).handlers

theorem dispatch_eq (world : World) (registry : Registry) (command : Command) :
    world.dispatch registry command = world.follow (world.dispatchPlan registry command) := by
  unfold dispatch dispatchPlan
  split
  · rfl
  · rw [attempt_eq, conclude_follow]

end World

end LineShell
