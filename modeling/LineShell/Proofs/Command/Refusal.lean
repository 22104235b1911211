import LineShell.Proofs.Command.Redirection
import LineShell.Proofs.World.Unchanged

/-!
# Refused commands

A command is refused when `cd` or a builtin fails, or when the target of its redirect cannot be
opened. Then no file has been created or truncated, no program has been started, and the shell
stands where it stood: all that is left of the command is its diagnostic. The order in which things
are done makes one exception. A builtin whose standard error is redirected prints its answer before
the target is opened.
-/

namespace LineShell

/-- What a builtin prints before it opens the target of its redirect. -/
def Redirect.printedFirst (redirect : Redirect) (text : String) : List Event :=
  match redirect.descriptor with
  | .stdout => []
  | .stderr => [.wrote .shell .stdout (text ++ "\n")]

namespace World

variable {world after : World} {registry : Registry} {command : Command} {redirect : Redirect}
  {failure : Failure}
  {error : ShellError}

/-- The target of the redirect cannot be opened. -/
def Blocked (world : World) (redirect : Redirect) (failure : Failure) : Prop :=
  world.openTarget redirect.path redirect.append = .error failure

/-- What a command prints before it opens the target of its redirect. Only builtins print first. -/
def printedFirst (world : World) (registry : Registry) (command : Command) : List Event :=
  match registry.route command.name, world.answer registry command, command.redirect with
  | .builtin _, some (.ok text), some redirect => redirect.printedFirst text
  | _, _, _ => []

/-- The command ends in an error of `cd` or of a builtin, or of writing to a target that cannot be
opened. -/
structure Refused (world : World) (registry : Registry) (command : Command) (error : ShellError) :
    Prop where
  name_ne_exit : command.name ≠ "exit"
  fails : (world.attempt registry command).1 = .error error
  cause : error.isA .builtin ∨
    error.kind = .write ∧ ∃ redirect failure, command.redirect = some redirect ∧
      world.Blocked redirect failure

/-! ### Plans that change nothing -/

/-- The steps show the events, and log records besides. -/
def Idles (events : List Event) (steps : List Step) : Prop :=
  (∀ step ∈ steps, step.IsIdle) ∧ steps.flatMap Step.performed = events

theorem Idles.unchanged {events : List Event} {steps : List Step} (hidles : Idles events steps)
    (world : World) : Unchanged events world (world.takeAll steps) :=
  hidles.2 ▸ unchanged_takeAll world hidles.1

theorem idles_log (record : Record) : Idles [] [.log record] :=
  ⟨List.forall_mem_singleton.mpr trivial, rfl⟩

theorem Idles.cons_log {events : List Event} {steps : List Step} (hidles : Idles events steps)
    (record : Record) : Idles events (.log record :: steps) :=
  ⟨List.forall_mem_cons.mpr ⟨trivial, hidles.1⟩, hidles.2⟩

/-! ### Blocked targets -/

theorem deliverPlan_of_blocked (hblocked : world.Blocked redirect failure) (text : String) :
    ∃ steps, world.deliverPlan text (some redirect) =
        ⟨.error (.write redirect.path failure.reason), steps⟩ ∧
      Idles (redirect.printedFirst text) steps := by
  have htarget := openTarget_eq_error_iff.mp hblocked
  obtain ⟨descriptor, spec, append⟩ := redirect
  cases descriptor with
  | stdout => exact ⟨_, writePlan_of_blocked htarget (text ++ "\n") append, idles_log _⟩
  | stderr =>
      rw [deliverPlan, writePlan_of_blocked htarget]
      exact ⟨[.say .stdout text, .log _], rfl,
        List.forall_mem_cons.mpr ⟨trivial, List.forall_mem_singleton.mpr trivial⟩, rfl⟩

theorem redirectedPlan_of_blocked (hredirect : command.redirect = some redirect)
    (hblocked : world.Blocked redirect failure) :
    ∃ record, world.redirectedPlan command =
      ⟨.error (.write redirect.path failure.reason), [.log record]⟩ := by
  unfold redirectedPlan
  rw [hredirect, openPlan_of_blocked (openTarget_eq_error_iff.mp hblocked)]
  exact ⟨_, rfl⟩

/-- A command that is carried out by a builtin that answers, or by a program, ends where its target
is opened. -/
theorem attemptPlan_of_blocked (hcd : command.name ≠ "cd")
    (hredirect : command.redirect = some redirect) (hblocked : world.Blocked redirect failure)
    (hanswered : ∀ error, world.answer registry command ≠ some (.error error)) :
    ∃ steps, world.attemptPlan registry command =
        ⟨.error (.write redirect.path failure.reason), steps⟩ ∧
      Idles (world.printedFirst registry command) steps := by
  cases hbuiltin : registry.get? command.name with
  | none =>
      have hprinted : world.printedFirst registry command = [] := by
        simp [printedFirst, route_eq_external_iff.mpr ⟨hcd, hbuiltin⟩]
      obtain ⟨record, hplan⟩ := redirectedPlan_of_blocked hredirect hblocked
      rw [attemptPlan_of_external world hcd hbuiltin, hplan, hprinted]
      exact ⟨_, rfl, (idles_log record).cons_log _⟩
  | some builtin =>
      have hanswer := world.answer_of_builtin hbuiltin
      cases hasked : registry.ask builtin (world.debug .execution (command.note "builtin "))
          command.args with
      | error refusal => exact absurd (hanswer.trans (by rw [hasked])) (hanswered refusal)
      | ok text =>
          have hroute := Registry.route_eq_builtin_iff.mpr ⟨hcd, hbuiltin⟩
          have hprinted : world.printedFirst registry command = redirect.printedFirst text := by
            simp [printedFirst, hroute, hanswer, hasked, hredirect]
          obtain ⟨steps, hdeliver, hidles⟩ := deliverPlan_of_blocked hblocked text
          rw [attemptPlan_of_builtin world hcd hbuiltin, hasked, hredirect, builtinPlan,
            hdeliver, hprinted]
          exact ⟨_, rfl, hidles.cons_log _⟩

/-! ### Refusal -/

/-- Of the commands that are not `cd`, those end in an error of a builtin whose builtin answers with
it. -/
theorem answer_of_attempt_error (hcd : command.name ≠ "cd")
    (herror : (world.attempt registry command).1 = .error error) (hkind : error.isA .builtin) :
    world.answer registry command = some (.error error) := by
  cases hbuiltin : registry.get? command.name with
  | none =>
      have hraises := attempt_error herror
      rw [route_eq_external_iff.mpr ⟨hcd, hbuiltin⟩] at hraises
      rcases hraises with ⟨_, rfl⟩ | ⟨_, _, rfl⟩ | ⟨_, _, rfl⟩ <;> cases hkind
  | some builtin =>
      rw [fst_attempt, attemptPlan_of_builtin world hcd hbuiltin] at herror
      rw [world.answer_of_builtin hbuiltin]
      cases hasked : registry.ask builtin (world.debug .execution (command.note "builtin "))
          command.args with
      | error refusal =>
          rw [hasked] at herror
          rw [Except.error.inj herror]
      | ok text =>
          rw [hasked] at herror
          obtain ⟨_, _, rfl⟩ := builtinPlan_ok_error herror
          cases hkind

theorem attemptPlan_of_answer_error (hcd : command.name ≠ "cd")
    (hanswer : world.answer registry command = some (.error error)) :
    Idles (world.printedFirst registry command) (world.attemptPlan registry command).steps := by
  obtain ⟨builtin, hbuiltin, hasked⟩ := Option.map_eq_some_iff.mp hanswer
  have hprinted : world.printedFirst registry command = [] := by
    simp [printedFirst, hanswer]
  rw [hprinted, attemptPlan_of_builtin world hcd hbuiltin, hasked]
  exact idles_log _

theorem cdPlan_of_error {args : List String} (herror : (world.cdPlan args).answer = .error error) :
    error.isA .builtin ∧ Idles [] (world.cdPlan args).steps := by
  rcases world.cdPlan_cases args with ⟨refusal, hanswer, hbuiltin, hlogs⟩ | ⟨_, _, hplan⟩
  · cases hanswer.symm.trans herror
    refine ⟨hbuiltin, fun step hstep => ?_, List.flatMap_eq_nil_iff.mpr fun step hstep => ?_⟩
    · obtain ⟨text, rfl⟩ := hlogs step hstep
      trivial
    · obtain ⟨text, rfl⟩ := hlogs step hstep
      rfl
  · rw [hplan] at herror
    cases herror

/-- A builtin that fails never comes to its target, so whether it fails is asked first. -/
theorem attempt_of_refused (hrefused : world.Refused registry command error) :
    Unchanged (world.printedFirst registry command) world
      (world.attempt registry command).2 := by
  obtain ⟨_, herror, hcause⟩ := hrefused
  suffices hidles : Idles (world.printedFirst registry command)
      (world.attemptPlan registry command).steps by
    rw [attempt_eq]
    exact hidles.unchanged world
  by_cases hcd : command.name = "cd"
  · have hprinted : world.printedFirst registry command = [] := by
      simp [printedFirst, hcd, registry.route_cd]
    rw [fst_attempt, attemptPlan_of_cd registry hcd] at herror
    rw [hprinted, attemptPlan_of_cd registry hcd]
    exact (cdPlan_of_error herror).2
  · by_cases hanswer : ∃ refusal, world.answer registry command = some (.error refusal)
    · obtain ⟨refusal, hanswer⟩ := hanswer
      exact attemptPlan_of_answer_error hcd hanswer
    · have hanswered := not_exists.mp hanswer
      rcases hcause with hkind | ⟨_, redirect, failure, hredirect, hblocked⟩
      · exact absurd (answer_of_attempt_error hcd herror hkind) (hanswered error)
      · obtain ⟨steps, hplan, hidles⟩ :=
          attemptPlan_of_blocked hcd hredirect hblocked hanswered
        rw [hplan]
        exact hidles

theorem printedFirst_cases (world : World) (registry : Registry) (command : Command) :
    world.printedFirst registry command = [] ∨
      ∃ text, world.printedFirst registry command = [.wrote .shell .stdout text] := by
  unfold printedFirst
  split
  · rename_i redirect _ _ _
    obtain ⟨descriptor, spec, append⟩ := redirect
    cases descriptor with
    | stdout => exact .inl rfl
    | stderr => exact .inr ⟨_, rfl⟩
  · exact .inl rfl

theorem Refused.status_eq (hrefused : world.Refused registry command error) {code : Int}
    (hstatus : error.HasStatus code) : code = 1 := by
  cases hstatus with
  | builtin => rfl
  | write => rfl
  | commandNotFound => rcases hrefused.cause with hkind | ⟨hkind, _⟩ <;> cases hkind
  | spawn => rcases hrefused.cause with hkind | ⟨hkind, _⟩ <;> cases hkind

/-- **A refused command leaves everything as it was.** It has status 1, files, directories,
variables and the working directory are as before, and nothing was started. Log records aside,
standard error has the diagnostic and no more, and standard output what a builtin prints before it
opens its target. Every command is refused whose target cannot be opened, unless its builtin fails
before. -/
theorem dispatch_refused (world : World) (registry : Registry) (command : Command) :
    (∀ error, world.Refused registry command error →
      ∃ after, world.dispatch registry command = (.ok (.status 1), after) ∧
        Unchanged (world.printedFirst registry command ++
          [.wrote .shell .stderr (error.message ++ "\n")]) world after ∧
        after.spawns = world.spawns ∧
        after.out = world.out ++ written .stdout (world.printedFirst registry command) ∧
        after.shown .stderr = world.shown .stderr ++ (error.message ++ "\n")) ∧
    ∀ redirect failure, command.redirect = some redirect → world.Blocked redirect failure →
      command.name ∉ specialNames → (∀ error, world.answer registry command ≠ some (.error error)) →
        world.Refused registry command (.write redirect.path failure.reason) := by
  constructor
  · intro error hrefused
    obtain ⟨code, hstatus, hdispatch⟩ := dispatch_of_error hrefused.name_ne_exit hrefused.fails
    obtain rfl := hrefused.status_eq hstatus
    have hattempt := attempt_of_refused hrefused
    have hafter := hattempt.trans (unchanged_printLine _ .stderr error.message)
    have hprinted := world.printedFirst_cases registry command
    refine ⟨_, hdispatch, hafter, ?_, ?_, ?_⟩
    · refine hafter.performs.spawns.trans ?_
      rcases hprinted with hprinted | ⟨text, hprinted⟩ <;> simp [hprinted, spawnsIn]
    · refine hafter.performs.out.trans ?_
      simp [written]
    · refine (hafter.performs.shown .stderr).trans ?_
      rcases hprinted with hprinted | ⟨text, hprinted⟩ <;> simp [hprinted, written]
  · intro redirect failure hredirect hblocked hname hanswered
    obtain ⟨hexit, hcd⟩ := not_mem_specialNames_iff.mp hname
    obtain ⟨steps, hplan, _⟩ := attemptPlan_of_blocked hcd hredirect hblocked hanswered
    exact ⟨hexit, by rw [fst_attempt, hplan], .inr ⟨rfl, redirect, failure, hredirect, hblocked⟩⟩

theorem dispatch_refused_after_printing :
    let world : World := { bare with files := ⟨[(["d"], .directory)]⟩ }
    ∃ after,
      world.dispatch .default ⟨"echo", ["a"], some ⟨.stderr, "./d/", true⟩⟩ =
        (.ok (.status 1), after) ∧
      after.files.find? ["d"] = some .directory ∧ after.out = "a\n" ∧
      after.shown .stderr = "./d/: Is a directory\n" := by
  intro world
  obtain ⟨hrefused, hblocked⟩ :=
    dispatch_refused world .default ⟨"echo", ["a"], some ⟨.stderr, "./d/", true⟩⟩
  have hanswer : world.answer .default ⟨"echo", ["a"], some ⟨.stderr, "./d/", true⟩⟩ =
      some (.ok "a") := rfl
  obtain ⟨after, hdispatch, hunchanged, _, hout, herr⟩ :=
    hrefused _ (hblocked ⟨.stderr, "./d/", true⟩ (.system .isDirectory (some "./d/")) rfl rfl
      (by decide) (by simp [hanswer]))
  refine ⟨after, hdispatch, ?_, ?_, ?_⟩
  · rw [hunchanged.find? ["d"] (by decide)]
    rfl
  · rw [hout]
    decide +kernel
  · rw [herr]
    decide +kernel

end World

end LineShell
