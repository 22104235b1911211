import LineShell.Proofs.Command.Redirection
import LineShell.Shell

/-!
# Runs in lockstep

Several runs of the shell have the same plans as long as their worlds are alike. So a relation under
which the worlds of all runs are alike, and which every step keeps, is kept by whole runs, and all
of them come to the same results. Files are opened and written only where the lines redirect to, so
the relation need not be kept elsewhere.
-/

namespace LineShell

/-- A path text may denote a path, for all that is known about where the shell stands. -/
def World.CanDenote (text : String) (path : Path) : Prop := ∃ world : World, world.Denotes text path

/-- A command may open the file at a path. -/
def Command.CanWrite (command : Command) (path : Path) : Prop :=
  ∃ redirect, command.redirect = some redirect ∧ World.CanDenote redirect.path path

/-- A line may open the file at a path. -/
def Shell.CanWrite (line : String) (path : Path) : Prop :=
  ∃ command, Command.ofLine line = .ok (some command) ∧ command.CanWrite path

variable {writable : Path → Prop}

/-! ### Confined steps -/

/-- The step keeps records as such, and touches files at certain paths alone. -/
def Step.Confined (writable : Path → Prop) : Step → Prop
  | emit event => ¬ event.IsLog
  | log _ | move _ => True
  | openFile path _ | write path _ _ => writable path

theorem Step.Serves.confined {world : World} {redirect : Option Redirect} {step : Step}
    (hserves : step.Serves world redirect)
    (hwritable : ∀ spec path, redirect = some spec → world.Denotes spec.path path →
      writable path) : step.Confined writable := by
  cases hserves with
  | log => trivial
  | said | spawned | heard => exact id
  | openFile hspec hdenotes | write hspec hdenotes => exact hwritable _ _ hspec hdenotes

namespace Plan

def Confined {α : Type} (writable : Path → Prop) (plan : Plan α) : Prop :=
  ∀ step ∈ plan.steps, step.Confined writable

theorem Confined.conclude {plan : Plan (Except ShellError Int)} (hconfined : plan.Confined writable)
    (handlers : List (ErrorKind × Int)) : (plan.conclude handlers).Confined writable := by
  unfold Plan.conclude
  cases plan.answer with
  | ok code => exact hconfined
  | error error =>
      dsimp only
      cases handlers.find? fun handler : ErrorKind × Int => error.isA handler.1 with
      | none => exact hconfined
      | some handler =>
          exact List.forall_mem_append.mpr ⟨hconfined, List.forall_mem_singleton.mpr id⟩

end Plan

namespace World

theorem attemptPlan_confined (world : World) (registry : Registry) {command : Command}
    (hwritable : ∀ path, command.CanWrite path → writable path) :
    (world.attemptPlan registry command).Confined writable := by
  by_cases hcd : command.name = "cd"
  · rw [attemptPlan_of_cd registry hcd]
    rcases world.cdPlan_cases command.args with ⟨_, _, _, hlogs⟩ | ⟨place, text, hplan⟩
    · intro step hstep
      obtain ⟨text, rfl⟩ := hlogs step hstep
      trivial
    · rw [hplan]
      exact List.forall_mem_cons.mpr ⟨trivial, List.forall_mem_singleton.mpr trivial⟩
  · have hserves := world.attemptPlan_serves command (registry.route_ne_cd hcd)
    intro step hstep
    refine (hserves step hstep).confined fun spec path hspec hdenotes => ?_
    exact hwritable path ⟨spec, hspec, world, hdenotes⟩

theorem dispatchPlan_confined (world : World) (registry : Registry) {command : Command}
    (hwritable : ∀ path, command.CanWrite path → writable path) :
    (world.dispatchPlan registry command).Confined writable := by
  unfold dispatchPlan
  split
  · exact List.forall_mem_nil _
  · exact (attemptPlan_confined world registry hwritable).conclude _

/-! ### Runs -/

variable {ι : Type} {related : (ι → World) → Prop} {worlds : ι → World}

/-- A relation between the worlds of several runs, one for each index, that every step keeps, as
long as files are touched at certain paths alone. -/
structure Lockstep (writable : Path → Prop) (related : (ι → World) → Prop) : Prop where
  alike : ∀ {worlds}, related worlds → ∀ i j, Alike (worlds i) (worlds j)
  take : ∀ {worlds}, related worlds → ∀ step : Step, step.Confined writable →
    related fun i => (worlds i).take step

/-- All runs come to the same result, in worlds that are related again. -/
def Agree {α : Type} (related : (ι → World) → Prop) (results : ι → α × World) : Prop :=
  ∃ result worlds, (∀ i, results i = (result, worlds i)) ∧ related worlds

theorem agree_of_related {α : Type} (result : α) (hrelated : related worlds) :
    Agree related fun i => (result, worlds i) :=
  ⟨result, worlds, fun _ => rfl, hrelated⟩

theorem Agree.settle {results : ι → Except ShellError Outcome × World}
    (hagree : Agree related results) : Agree related fun i => World.settle (results i) := by
  obtain ⟨result, worlds, hresults, hrelated⟩ := hagree
  simp only [hresults]
  cases result with
  | ok outcome => exact agree_of_related _ hrelated
  | error error => exact agree_of_related _ hrelated

namespace Lockstep

variable (hlockstep : Lockstep writable related)

include hlockstep

theorem log (hrelated : related worlds) (record : Record) :
    related fun i => (worlds i).log record :=
  hlockstep.take hrelated (.log record) trivial

theorem write (hrelated : related worlds) (stream : Descriptor) (text : String) :
    related fun i => (worlds i).write stream text :=
  hlockstep.take hrelated (.emit (.wrote .shell stream text)) id

theorem takeAll (hrelated : related worlds) {steps : List Step}
    (hconfined : ∀ step ∈ steps, step.Confined writable) :
    related fun i => (worlds i).takeAll steps := by
  induction steps generalizing worlds with
  | nil => exact hrelated
  | cons step steps ih =>
      obtain ⟨hstep, hsteps⟩ := List.forall_mem_cons.mp hconfined
      exact ih (hlockstep.take hrelated step hstep) hsteps

variable [Nonempty ι]

theorem follow (hrelated : related worlds) {α : Type} {plans : ι → Plan α}
    (hcommon : ∀ i j, plans j = plans i) (hconfined : ∀ i, (plans i).Confined writable) :
    Agree related fun i => (worlds i).follow (plans i) := by
  obtain ⟨i⟩ := ‹Nonempty ι›
  exact ⟨(plans i).answer, fun j => (worlds j).takeAll (plans i).steps,
    fun j => congrArg (worlds j).follow (hcommon i j), hlockstep.takeAll hrelated (hconfined i)⟩

theorem execute (hrelated : related worlds) {command : Command}
    (hwritable : ∀ path, command.CanWrite path → writable path) :
    Agree related fun i => (worlds i).execute .default command := by
  unfold World.execute
  apply Agree.settle
  simp only [dispatch_eq]
  refine hlockstep.follow hrelated (fun i j => ?_)
    fun i => dispatchPlan_confined (worlds i) .default hwritable
  have hnoted := hlockstep.alike
    (hlockstep.log hrelated ⟨.debug, .execution, command.note "builtin "⟩) i j
  have hattempt : (worlds j).attemptPlan .default command =
      (worlds i).attemptPlan .default command :=
    (hlockstep.alike hrelated i j).attemptPlan fun _ hroute => hnoted.searchesAlike.ask_default
      (Registry.route_eq_builtin_iff.mp hroute).2 command.args
  rw [dispatchPlan, hattempt, dispatchPlan]

theorem executeLine (hrelated : related worlds) (prompt : String) {line : String}
    (hwritable : ∀ path, Shell.CanWrite line path → writable path) :
    Agree related fun i => Shell.executeLine ⟨.default, prompt⟩ (worlds i) line := by
  have hread := hlockstep.log hrelated
    ⟨.debug, .shell, "tokens: " ++ Token.describeAll (tokenize line)⟩
  unfold Shell.executeLine
  dsimp only
  rcases hparse : Command.ofTokens (tokenize line) with error | _ | command
  · apply Agree.settle
    have hconclude : ∀ world, conclude [(.syntaxError, 1)] (.error error, world) =
        world.follow (Plan.conclude [(.syntaxError, 1)] ⟨.error error, []⟩) :=
      fun world => world.conclude_follow [(.syntaxError, 1)] ⟨.error error, []⟩
    simp only [hconclude]
    have hconfined : Plan.Confined writable (⟨.error error, []⟩ : Plan (Except ShellError Int)) :=
      List.forall_mem_nil _
    exact hlockstep.follow hread (fun _ _ => rfl) fun _ => hconfined.conclude _
  · exact agree_of_related _ hread
  · refine hlockstep.execute
      (hlockstep.log hread ⟨.debug, .shell, "resolved: " ++ command.describe⟩)
      fun path hpath => ?_
    exact hwritable path ⟨command, hparse, hpath⟩

omit [Nonempty ι] in
theorem atEnd (hrelated : related worlds) (failure : Option String) :
    Agree related fun i => Shell.atEnd (worlds i) failure := by
  cases failure with
  | none => exact agree_of_related _ (hlockstep.write hrelated .stdout _)
  | some error => exact agree_of_related _ (hlockstep.write (hlockstep.log hrelated _) .stderr _)

/-- Runs that start in related worlds read the same lines and end alike. -/
theorem runLines (hrelated : related worlds) (prompt : String) (failure : Option String)
    {lines : List String}
    (hwritable : ∀ line ∈ lines, ∀ path, Shell.CanWrite line path → writable path) :
    Agree related fun i => Shell.runLines ⟨.default, prompt⟩ failure lines (worlds i) := by
  induction lines generalizing worlds with
  | nil => exact hlockstep.atEnd (hlockstep.write hrelated .stdout prompt) failure
  | cons line lines ih =>
      obtain ⟨hfirst, hrest⟩ := List.forall_mem_cons.mp hwritable
      obtain ⟨outcome, next, hline, hnext⟩ :=
        hlockstep.executeLine (hlockstep.write hrelated .stdout prompt) prompt hfirst
      simp only [Shell.runLines, hline]
      cases outcome with
      | exit code => exact agree_of_related _ hnext
      | status code => exact ih hnext hrest

end Lockstep

end World

end LineShell
