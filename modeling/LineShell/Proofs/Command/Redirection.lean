import LineShell.Proofs.Command.Diagnosis
import LineShell.Proofs.World.Rewriting

/-!
# The one file that a command touches

`cd` and `exit` touch no file. Any other command touches the target of its redirect, unless it is a
builtin that has failed before. What it leaves in a target that it truncates does not depend on what
was there.
-/

namespace LineShell

theorem not_mem_specialNames_iff {name : String} :
    name ∉ specialNames ↔ name ≠ "exit" ∧ name ≠ "cd" := by
  simp [specialNames]

namespace Registry

variable {registry : Registry} {name : String}

theorem route_eq_builtin_iff {builtin : Builtin} :
    registry.route name = .builtin builtin ↔
      name ≠ "cd" ∧ registry.get? name = some builtin := by
  unfold route
  by_cases hcd : name = "cd"
  · simp [hcd]
  · cases registry.get? name <;> simp [hcd]

theorem route_cd (registry : Registry) : registry.route "cd" = .cd := by
  simp [route]

theorem route_ne_cd (registry : Registry) (hname : name ≠ "cd") : registry.route name ≠ .cd := by
  unfold route
  rw [if_neg hname]
  cases registry.get? name <;> nofun

/-- No builtin of the registry looks at what a file holds. -/
def ReadsNoFile (registry : Registry) : Prop :=
  ∀ name builtin, registry.get? name = some builtin → ∀ (world : World) path text args,
    registry.ask builtin (world.rewrite path text) args = registry.ask builtin world args

end Registry

namespace World

variable {world before after : World} {registry : Registry} {command : Command}
  {redirect : Redirect} {path : Path} {touched : Path → Bool → Prop}

theorem attemptPlan_of_cd (registry : Registry) (hname : command.name = "cd") :
    world.attemptPlan registry command = world.cdPlan command.args := by
  rw [attemptPlan, hname, registry.route_cd]

theorem attemptPlan_of_builtin (world : World) {builtin : Builtin} (hname : command.name ≠ "cd")
    (hbuiltin : registry.get? command.name = some builtin) :
    world.attemptPlan registry command =
      (world.builtinPlan command.redirect (registry.ask builtin
        (world.debug .execution (command.note "builtin ")) command.args)).after
          [.log ⟨.debug, .execution, command.note "builtin "⟩] := by
  rw [attemptPlan, Registry.route_eq_builtin_iff.mpr ⟨hname, hbuiltin⟩]

theorem attemptPlan_of_external (world : World) (hname : command.name ≠ "cd")
    (hbuiltin : registry.get? command.name = none) :
    world.attemptPlan registry command =
      (world.redirectedPlan command).after [.log command.passedRecord] := by
  rw [attemptPlan, route_eq_external_iff.mpr ⟨hname, hbuiltin⟩]

theorem answer_of_builtin (world : World) {builtin : Builtin}
    (hbuiltin : registry.get? command.name = some builtin) :
    world.answer registry command =
      some (registry.ask builtin (world.debug .execution (command.note "builtin "))
        command.args) := by
  rw [answer, hbuiltin, Option.map_some]

/-- The answer of a builtin is delivered where the command has been recorded. -/
theorem attempt_of_answer (world : World) {builtin : Builtin} {text : String}
    (hname : command.name ≠ "cd") (hbuiltin : registry.get? command.name = some builtin)
    (hanswer : registry.ask builtin (world.debug .execution (command.note "builtin "))
      command.args = .ok text) :
    world.attempt registry command =
      (((world.debug .execution (command.note "builtin ")).deliver text command.redirect).1.map
          fun _ => 0,
        ((world.debug .execution (command.note "builtin ")).deliver text command.redirect).2) := by
  have hnoted := logged_log world ⟨.debug, .execution, command.note "builtin "⟩
  rw [attempt_eq, attemptPlan_of_builtin world hname hbuiltin, hanswer, follow_after, deliver_eq,
    builtinPlan, follow_map, debug, hnoted.alike.deliverPlan]
  rfl

theorem SearchesAlike.ask_type (halike : SearchesAlike before after) (registry : Registry)
    (names : List String) : registry.ask .type after names = registry.ask .type before names := by
  have hline : Builtin.typeLine registry.isBuiltin after =
      Builtin.typeLine registry.isBuiltin before := by
    funext name
    simp only [Builtin.typeLine, halike.findExecutable]
  simp only [Registry.ask, Builtin.type, hline]

/-- The builtins of the default registry answer alike in worlds that no search tells apart. -/
theorem SearchesAlike.ask_default {builtin : Builtin} {name : String}
    (halike : SearchesAlike before after)
    (hbuiltin : Registry.default.get? name = some builtin) (args : List String) :
    Registry.default.ask builtin after args = Registry.default.ask builtin before args := by
  have hmem : (name, some builtin) ∈ Registry.default.entries := by
    obtain ⟨first, last, hentries, _⟩ :=
      List.lookup_eq_some_iff.mp (Option.join_eq_some_iff.mp hbuiltin)
    simp [hentries]
  simp only [Registry.default, List.mem_cons, Prod.mk.injEq, Option.some.injEq, List.not_mem_nil,
    or_false] at hmem
  rcases hmem with ⟨_, rfl⟩ | ⟨_, rfl⟩ | ⟨_, rfl⟩
  · rfl
  · simp only [Registry.ask, Builtin.pwd, workingDirectory, halike.cwd]
  · exact halike.ask_type .default args

theorem readsNoFile_default : Registry.default.ReadsNoFile :=
  fun _ _ hbuiltin world path text args =>
    (world.alike_rewrite path text).searchesAlike.ask_default hbuiltin args

/-! ### The touched file -/

/-- Dispatching the command touches the file at a path: the command is neither `exit` nor `cd`, its
redirect denotes the path, and no builtin fails before. -/
structure Redirects (world : World) (registry : Registry) (command : Command)
    (redirect : Redirect) (path : Path) : Prop where
  name_ne_exit : command.name ≠ "exit"
  name_ne_cd : command.name ≠ "cd"
  redirected : command.redirect = some redirect
  denotes : world.Denotes redirect.path path
  answered : ∀ error, world.answer registry command ≠ some (.error error)

theorem attemptPlan_within (hexit : command.name ≠ "exit") (hcd : command.name ≠ "cd")
    (htouched : ∀ redirect path, world.Redirects registry command redirect path →
      touched path redirect.append) :
    ∀ step ∈ (world.attemptPlan registry command).steps, step.Within touched := by
  have hserves := world.attemptPlan_serves command (registry.route_ne_cd hcd)
  by_cases hfails : ∃ error, world.answer registry command = some (.error error)
  · obtain ⟨error, hanswer⟩ := hfails
    obtain ⟨builtin, hbuiltin, hasked⟩ := Option.map_eq_some_iff.mp hanswer
    rw [attemptPlan_of_builtin world hcd hbuiltin, hasked]
    exact List.forall_mem_singleton.mpr trivial
  · intro step hstep
    refine (hserves step hstep).within fun spec target hspec hdenotes => ?_
    exact htouched spec target ⟨hexit, hcd, hspec, hdenotes, not_exists.mp hfails⟩

theorem execute_touchesOnly (hcd : command.name ≠ "cd")
    (htouched : ∀ redirect path, world.Redirects registry command redirect path →
      touched path redirect.append) :
    TouchesOnly touched world (world.execute registry command).2 := by
  by_cases hexit : command.name = "exit"
  · rw [execute_of_exit world registry hexit]
    exact TouchesOnly.refl touched world
  · have hattempt := touchesOnly_takeAll world (attemptPlan_within hexit hcd htouched)
    obtain ⟨outcome, steps, hexecute, hidle⟩ := execute_eq_takeAll world registry hexit
    rw [hexecute]
    exact hattempt.trans (touchesOnly_takeAll _ fun step hstep => (hidle step hstep).within _)

/-- `cd` moves and has status 0, or stays. -/
theorem execute_cd_moves (touched : Path → Bool → Prop) (world : World) (registry : Registry)
    (hname : command.name = "cd") :
    ∃ place, TouchesOnly touched { world with cwd := place } (world.execute registry command).2 ∧
      (place = world.cwd ∨ (world.execute registry command).1 = .status 0) := by
  have hexit : command.name ≠ "exit" := by simp [hname]
  obtain ⟨outcome, steps, hexecute, hidle⟩ := execute_eq_takeAll world registry hexit
  have hreport : ∀ world, TouchesOnly touched world (world.takeAll steps) := fun world =>
    touchesOnly_takeAll world fun step hstep => (hidle step hstep).within touched
  rw [attemptPlan_of_cd registry hname] at hexecute
  rcases world.cdPlan_cases command.args with ⟨_, _, _, hlogs⟩ | ⟨place, text, hplan⟩
  · refine ⟨world.cwd, ?_, .inl rfl⟩
    rw [hexecute]
    refine TouchesOnly.trans (touchesOnly_takeAll world fun step hstep => ?_) (hreport _)
    obtain ⟨text, rfl⟩ := hlogs step hstep
    trivial
  · refine ⟨place, ?_, .inr ?_⟩
    · rw [hexecute, hplan]
      exact (touchesOnly_take _ (.log _) trivial).trans (hreport _)
    · have hanswer : (world.attempt registry command).1 = .ok 0 := by
        rw [fst_attempt, attemptPlan_of_cd registry hname, hplan]
      rw [execute, dispatch_of_ok hexit hanswer, settle]

/-! ### The truncated file -/

theorem writePlan_of_denotes (hdenotes : world.Denotes redirect.path path) (text : String) :
    ∃ rest, (world.writePlan redirect.path text redirect.append).steps =
      .openFile path redirect.append :: rest := by
  simp only [writePlan, targetOf_eq_ok_iff.mpr hdenotes]
  split
  · exact ⟨_, rfl⟩
  · exact ⟨_, rfl⟩

/-- Before a command opens its target it touches nothing. -/
theorem Redirects.steps_eq (hredirects : world.Redirects registry command redirect path) :
    ∃ first rest, (world.attemptPlan registry command).steps =
        first ++ .openFile path redirect.append :: rest ∧
      ∀ step ∈ first, step.IsIdle := by
  have hcd := hredirects.name_ne_cd
  cases hbuiltin : registry.get? command.name with
  | none =>
      rw [attemptPlan_of_external world hcd hbuiltin]
      unfold redirectedPlan
      rw [hredirects.redirected, openPlan_of_denotes hredirects.denotes]
      exact ⟨[_], _, rfl, List.forall_mem_singleton.mpr trivial⟩
  | some builtin =>
      have hanswer := world.answer_of_builtin hbuiltin
      rw [attemptPlan_of_builtin world hcd hbuiltin, hredirects.redirected]
      cases hasked : registry.ask builtin (world.debug .execution (command.note "builtin "))
          command.args with
      | error error => exact absurd (hanswer.trans (by rw [hasked])) (hredirects.answered error)
      | ok text =>
          have hdenotes := hredirects.denotes
          obtain ⟨descriptor, spec, append⟩ := redirect
          cases descriptor with
          | stdout =>
              obtain ⟨rest, hrest⟩ := writePlan_of_denotes hdenotes (text ++ "\n")
              exact ⟨[_], rest, congrArg _ hrest, List.forall_mem_singleton.mpr trivial⟩
          | stderr =>
              obtain ⟨rest, hrest⟩ := writePlan_of_denotes hdenotes ""
              exact ⟨[_, _], rest, congrArg (fun steps => _ :: _ :: steps) hrest,
                List.forall_mem_cons.mpr ⟨trivial, List.forall_mem_singleton.mpr trivial⟩⟩

/-- A command that truncates a file ends in the same world for any text that the file held, as long
as builtins do not look at that text. -/
theorem execute_rewrite (hredirects : world.Redirects registry command redirect path)
    (htruncates : redirect.append = false) (hreads : registry.ReadsNoFile) (text : String) :
    (world.rewrite path text).execute registry command = world.execute registry command := by
  have hplan : (world.rewrite path text).attemptPlan registry command =
      world.attemptPlan registry command := by
    refine (world.alike_rewrite path text).attemptPlan fun builtin hroute => ?_
    obtain ⟨other, hother⟩ := world.log_rewrite path text
      ⟨.debug, .execution, command.note "builtin "⟩
    rw [debug, hother]
    exact hreads _ builtin (Registry.route_eq_builtin_iff.mp hroute).2 _ path other command.args
  suffices hattempt :
      (world.rewrite path text).attempt registry command = world.attempt registry command by
    rw [execute, execute, dispatch, dispatch, hattempt, if_neg hredirects.name_ne_exit,
      if_neg hredirects.name_ne_exit]
  obtain ⟨first, rest, hsteps, hidle⟩ := hredirects.steps_eq
  rw [attempt_eq, attempt_eq, hplan, follow, follow, hsteps, htruncates,
    world.takeAll_rewrite path text hidle]

end World

end LineShell
