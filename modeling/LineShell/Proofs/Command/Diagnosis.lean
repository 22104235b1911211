import LineShell.Proofs.World.Running

/-!
# One diagnostic for every failure

A route is closed: each error that can come up on it has a handler there. So a command ends the
shell only if it is `exit`, a failure of the shell's own adds one diagnostic and a nonzero status,
and everything else adds none.
-/

namespace LineShell

/-- The statuses of failed commands. -/
inductive ShellError.HasStatus : ShellError → Int → Prop
  | builtin {error : ShellError} (hbuiltin : error.isA .builtin) : HasStatus error 1
  | write (path reason : String) : HasStatus (.write path reason) 1
  | commandNotFound (name : String) : HasStatus (.commandNotFound name) 127
  | spawn (name reason : String) : HasStatus (.spawn name reason) 126

namespace Route

variable {route : Route} {error : ShellError}

/-- The errors that can come up on a route. -/
def Raises (error : ShellError) : Route → Prop
  | cd => error.isA .builtin
  | builtin _ => error.isA .builtin ∨ ∃ path reason, error = .write path reason
  | external =>
    (∃ name, error = .commandNotFound name) ∨ (∃ name reason, error = .spawn name reason) ∨
      ∃ path reason, error = .write path reason

theorem handles (hraises : route.Raises error) :
    ∃ family code, error.HasStatus code ∧
      route.handlers.find? (fun handler => error.isA handler.1) = some (family, code) := by
  cases route with
  | cd =>
      have hbuiltin : error.isA .builtin := hraises
      exact ⟨.builtin, 1, .builtin hraises, by simp [handlers, hbuiltin]⟩
  | builtin builtin =>
      rcases hraises with hbuiltin | ⟨path, reason, rfl⟩
      · exact ⟨.builtin, 1, .builtin hbuiltin, by simp [handlers, hbuiltin]⟩
      · exact ⟨.write, 1, .write path reason, rfl⟩
  | external =>
      rcases hraises with ⟨name, rfl⟩ | ⟨name, reason, rfl⟩ | ⟨path, reason, rfl⟩
      · exact ⟨.commandNotFound, 127, .commandNotFound name, rfl⟩
      · exact ⟨.spawn, 126, .spawn name reason, rfl⟩
      · exact ⟨.write, 1, .write path reason, rfl⟩

/-- The statuses of commands that do not fail. -/
def Yields (world : World) (command : Command) (code : Int) : Route → Prop
  | cd | builtin _ => code = 0
  | external =>
    ∃ executable out err, world.findExecutable command.name = some executable ∧
      world.ending? executable (world.target? command.redirect) = some (.exits out err code)

end Route

namespace World

variable {world : World} {registry : Registry} {command : Command} {error : ShellError}

/-! ### The errors of the parts of a command -/

theorem writePlan_error {path text : String} {append : Bool}
    (herror : (world.writePlan path text append).answer = .error error) :
    ∃ reason, error = .write path reason := by
  unfold writePlan at herror
  dsimp only at herror
  cases htarget : world.targetOf path with
  | error failure =>
      rw [htarget] at herror
      exact ⟨_, (Except.error.inj herror).symm⟩
  | ok target =>
      rw [htarget] at herror
      dsimp only at herror
      split at herror
      · exact ⟨_, (Except.error.inj herror).symm⟩
      · cases herror

theorem openPlan_error {redirect : Option Redirect}
    (herror : (world.openPlan redirect).answer = .error error) :
    ∃ path reason, error = .write path reason := by
  cases redirect with
  | none => cases herror
  | some redirect =>
      unfold openPlan at herror
      dsimp only at herror
      cases htarget : world.targetOf redirect.path with
      | error failure =>
          rw [htarget] at herror
          exact ⟨_, _, (Except.error.inj herror).symm⟩
      | ok target =>
          rw [htarget] at herror
          cases herror

theorem deliverPlan_error {text : String} {redirect : Option Redirect}
    (herror : (world.deliverPlan text redirect).answer = .error error) :
    ∃ path reason, error = .write path reason := by
  rcases redirect with _ | ⟨_ | _, path, append⟩
  · cases herror
  · exact ⟨path, writePlan_error herror⟩
  · exact ⟨path, writePlan_error herror⟩

theorem builtinPlan_ok_error {text : String} {redirect : Option Redirect}
    (herror : (world.builtinPlan redirect (.ok text)).answer = .error error) :
    ∃ path reason, error = .write path reason := by
  unfold builtinPlan Plan.map at herror
  dsimp only at herror
  cases hdeliver : (world.deliverPlan text redirect).answer with
  | error refusal =>
      rw [hdeliver] at herror
      cases herror
      exact deliverPlan_error hdeliver
  | ok done =>
      rw [hdeliver] at herror
      cases herror

theorem builtinPlan_ok {answer : Except ShellError String} {redirect : Option Redirect}
    {code : Int} (hcode : (world.builtinPlan redirect answer).answer = .ok code) : code = 0 := by
  cases answer with
  | error refusal => cases hcode
  | ok text =>
      unfold builtinPlan Plan.map at hcode
      dsimp only at hcode
      cases hdeliver : (world.deliverPlan text redirect).answer with
      | error refusal =>
          rw [hdeliver] at hcode
          cases hcode
      | ok done =>
          rw [hdeliver] at hcode
          exact (Except.ok.inj hcode).symm

theorem ask_error {builtin : Builtin} {args : List String}
    (hanswer : registry.ask builtin world args = .error error) : ∃ text, error = .builtin text := by
  unfold Registry.ask at hanswer
  cases htext : builtin registry.isBuiltin world args with
  | error text =>
      rw [htext] at hanswer
      exact ⟨text, (Except.error.inj hanswer).symm⟩
  | ok text =>
      rw [htext] at hanswer
      cases hanswer

theorem cdTarget_error {args : List String} (herror : world.cdTarget args = .error error) :
    error.isA .builtin := by
  unfold cdTarget at herror
  split at herror
  · cases herror
    rfl
  · split at herror
    · cases herror
    · cases herror
      rfl
  · split at herror
    · cases herror
    · cases herror
      rfl
  · cases herror

/-- `cd` records that it fails, or moves and records that. -/
theorem cdPlan_cases (world : World) (args : List String) :
    (∃ error : ShellError, (world.cdPlan args).answer = .error error ∧ error.isA .builtin ∧
      ∀ step ∈ (world.cdPlan args).steps, ∃ text, step = .log ⟨.debug, .builtins, text⟩) ∨
    ∃ place text,
      world.cdPlan args = ⟨.ok 0, [.move place, .log ⟨.debug, .builtins, text⟩]⟩ := by
  unfold cdPlan
  cases htarget : world.cdTarget args with
  | error error => exact .inl ⟨error, rfl, cdTarget_error htarget, List.forall_mem_nil _⟩
  | ok target =>
      dsimp only
      cases world.placeAt target with
      | error failure => exact .inl ⟨_, rfl, rfl, List.forall_mem_singleton.mpr ⟨_, rfl⟩⟩
      | ok place => exact .inr ⟨place, _, rfl⟩

/-- An external command ends in one of four ways. -/
theorem redirectedPlan_cases (world : World) (command : Command) :
    (∃ error, (world.openRedirect command.redirect).1 = .error error ∧
      (world.redirectedPlan command).answer = .error error) ∨
    ∃ file, (world.openRedirect command.redirect).1 = .ok file ∧
      ((world.findExecutable command.name = none ∧
          (world.redirectedPlan command).answer = .error (.commandNotFound command.name)) ∨
        ∃ executable, world.findExecutable command.name = some executable ∧
          ((∃ failure, world.startResult (command.name :: command.args) executable
                (world.target? command.redirect) = .error failure ∧
              (world.redirectedPlan command).answer =
                .error (.spawn command.name failure.reason)) ∨
            ∃ code, world.startResult (command.name :: command.args) executable
                (world.target? command.redirect) = .ok code ∧
              (world.redirectedPlan command).answer = .ok code)) := by
  rw [openRedirect_eq, follow]
  unfold redirectedPlan
  dsimp only
  cases hopen : (world.openPlan command.redirect).answer with
  | error error => exact .inl ⟨error, rfl, rfl⟩
  | ok file =>
      refine .inr ⟨file, rfl, ?_⟩
      dsimp only [Plan.after]
      rw [answer_externalPlan, map_path_of_openPlan hopen]
      cases hfind : world.findExecutable command.name with
      | none => exact .inl ⟨rfl, externalResult_of_none hfind _ _⟩
      | some executable =>
          refine .inr ⟨executable, rfl, ?_⟩
          rw [externalResult_of_some hfind]
          cases world.startResult (command.name :: command.args) executable
              (world.target? command.redirect) with
          | error failure => exact .inl ⟨failure, rfl, rfl⟩
          | ok code => exact .inr ⟨code, rfl, rfl⟩

/-! ### The errors of a route -/

theorem route_eq_external_iff {name : String} :
    registry.route name = .external ↔ name ≠ "cd" ∧ registry.get? name = none := by
  unfold Registry.route
  by_cases hcd : name = "cd"
  · simp [hcd]
  · cases registry.get? name <;> simp [hcd]

theorem fst_attempt (world : World) (registry : Registry) (command : Command) :
    (world.attempt registry command).1 = (world.attemptPlan registry command).answer := by
  rw [attempt_eq, follow]

theorem fst_attempt_of_external (hroute : registry.route command.name = .external) :
    (world.attempt registry command).1 = (world.redirectedPlan command).answer := by
  rw [fst_attempt, attemptPlan, hroute]
  rfl

theorem attempt_error (herror : (world.attempt registry command).1 = .error error) :
    (registry.route command.name).Raises error := by
  cases hroute : registry.route command.name with
  | cd =>
      rw [fst_attempt, attemptPlan, hroute] at herror
      rcases world.cdPlan_cases command.args with ⟨refusal, hanswer, hbuiltin, _⟩ | ⟨_, _, hplan⟩
      · cases hanswer.symm.trans herror
        exact hbuiltin
      · rw [hplan] at herror
        cases herror
  | builtin builtin =>
      rw [fst_attempt, attemptPlan, hroute] at herror
      dsimp only [Plan.after] at herror
      cases hanswer : registry.ask builtin
          (world.debug .execution (command.note "builtin ")) command.args with
      | error refusal =>
          rw [hanswer] at herror
          cases herror
          obtain ⟨text, rfl⟩ := ask_error hanswer
          exact .inl rfl
      | ok text =>
          rw [hanswer] at herror
          exact .inr (builtinPlan_ok_error herror)
  | external =>
      rw [fst_attempt_of_external hroute] at herror
      rcases redirectedPlan_cases world command with
        ⟨refusal, hopen, hresult⟩ |
          ⟨_, _, ⟨_, hresult⟩ | ⟨_, _, ⟨failure, _, hresult⟩ | ⟨_, _, hresult⟩⟩⟩
      · cases hresult.symm.trans herror
        rw [openRedirect_eq, follow] at hopen
        exact .inr (.inr (openPlan_error hopen))
      · cases hresult.symm.trans herror
        exact .inl ⟨_, rfl⟩
      · cases hresult.symm.trans herror
        exact .inr (.inl ⟨_, _, rfl⟩)
      · cases hresult.symm.trans herror

theorem attempt_ok {code : Int} (hcode : (world.attempt registry command).1 = .ok code) :
    (registry.route command.name).Yields world command code := by
  cases hroute : registry.route command.name with
  | cd =>
      rw [fst_attempt, attemptPlan, hroute] at hcode
      rcases world.cdPlan_cases command.args with ⟨refusal, hanswer, _⟩ | ⟨_, _, hplan⟩
      · cases hanswer.symm.trans hcode
      · rw [hplan] at hcode
        exact (Except.ok.inj hcode).symm
  | builtin builtin =>
      rw [fst_attempt, attemptPlan, hroute] at hcode
      exact builtinPlan_ok hcode
  | external =>
      rw [fst_attempt_of_external hroute] at hcode
      rcases redirectedPlan_cases world command with
        ⟨_, _, hresult⟩ | ⟨_, _, ⟨_, hresult⟩ |
          ⟨executable, hfind, ⟨_, _, hresult⟩ | ⟨result, hstart, hresult⟩⟩⟩
      · cases hresult.symm.trans hcode
      · cases hresult.symm.trans hcode
      · cases hresult.symm.trans hcode
      · cases hresult.symm.trans hcode
        obtain ⟨_, out, err, hending⟩ := startResult_eq_ok_iff.mp hstart
        exact ⟨executable, out, err, hfind, hending⟩

/-- What is carried out for a command, but for `cd`, serves its redirect. -/
theorem attemptPlan_serves (world : World) (command : Command)
    (hcd : registry.route command.name ≠ .cd) :
    (world.attemptPlan registry command).Serves world command.redirect := by
  unfold attemptPlan
  cases hroute : registry.route command.name with
  | cd => exact absurd hroute hcd
  | builtin builtin =>
      exact List.forall_mem_cons.mpr ⟨.log _, world.builtinPlan_serves command.redirect _⟩
  | external => exact List.forall_mem_cons.mpr ⟨.log _, world.redirectedPlan_serves command⟩

/-- No part of a command writes a diagnostic by itself. -/
theorem diagnostics_attempt (world : World) (registry : Registry) (command : Command) :
    (world.attempt registry command).2.diagnostics = world.diagnostics := by
  have hshows := world.shows_takeAll (world.attemptPlan registry command).steps
  have hnothing : ((world.attemptPlan registry command).steps.flatMap Step.shown).filterMap
      Event.diagnostic? = [] := by
    by_cases hcd : registry.route command.name = .cd
    · unfold attemptPlan
      rw [hcd]
      dsimp only
      rcases world.cdPlan_cases command.args with ⟨_, _, _, hlogs⟩ | ⟨_, _, hplan⟩
      · refine List.filterMap_eq_nil_iff.mpr fun event hevent => ?_
        obtain ⟨step, hstep, hshown⟩ := List.mem_flatMap.mp hevent
        obtain ⟨text, rfl⟩ := hlogs step hstep
        rw [List.mem_singleton.mp hshown]
        rfl
      · rw [hplan]
        rfl
    · exact (world.attemptPlan_serves command hcd).diagnostics_eq_nil
  rw [attempt_eq, follow, hshows.diagnostics, hnothing, List.append_nil]

/-! ### Missing commands -/

theorem Route.external_of_raises {route : Route} (hraises : route.Raises error)
    (hbuiltin : error.isA .builtin = false) (hwrite : error.kind ≠ .write) : route = .external := by
  cases route with
  | cd => exact absurd hraises (by simp [Route.Raises, hbuiltin])
  | builtin builtin =>
      rcases hraises with hraises | ⟨path, reason, rfl⟩
      · simp [hbuiltin] at hraises
      · exact absurd rfl hwrite
  | external => rfl

theorem redirectedPlan_commandNotFound_iff {name : String} :
    (world.redirectedPlan command).answer = .error (.commandNotFound name) ↔
      name = command.name ∧ (∃ file, (world.openRedirect command.redirect).1 = .ok file) ∧
        world.findExecutable command.name = none := by
  constructor
  · intro hmissing
    rcases redirectedPlan_cases world command with
      ⟨error, hopen, hresult⟩ |
        ⟨file, hopen, ⟨hfind, hresult⟩ | ⟨_, _, ⟨_, _, hresult⟩ | ⟨_, _, hresult⟩⟩⟩
    · cases hresult.symm.trans hmissing
      rw [openRedirect_eq, follow] at hopen
      obtain ⟨path, reason, herror⟩ := openPlan_error hopen
      cases herror
    · cases hresult.symm.trans hmissing
      exact ⟨rfl, ⟨file, hopen⟩, hfind⟩
    · cases hresult.symm.trans hmissing
    · cases hresult.symm.trans hmissing
  · rintro ⟨rfl, ⟨file, hopen⟩, hfind⟩
    rw [openRedirect_eq, follow] at hopen
    dsimp only at hopen
    simp [redirectedPlan, hopen, Plan.after, answer_externalPlan, externalResult_of_none hfind]

/-- A command is missing when nobody carries its name and its redirect could be opened all the
same. -/
theorem attempt_commandNotFound_iff {name : String} :
    (world.attempt registry command).1 = .error (.commandNotFound name) ↔
      name = command.name ∧ command.name ≠ "cd" ∧ registry.get? command.name = none ∧
        (∃ file, (world.openRedirect command.redirect).1 = .ok file) ∧
        world.findExecutable command.name = none := by
  constructor
  · intro hmissing
    have hroute := Route.external_of_raises (attempt_error hmissing) rfl (by simp [ShellError.kind])
    rw [fst_attempt_of_external hroute, redirectedPlan_commandNotFound_iff] at hmissing
    obtain ⟨hcd, hregistry⟩ := route_eq_external_iff.mp hroute
    exact ⟨hmissing.1, hcd, hregistry, hmissing.2⟩
  · rintro ⟨hname, hcd, hregistry, hmissing⟩
    have hroute := route_eq_external_iff.mpr ⟨hcd, hregistry⟩
    rw [fst_attempt_of_external hroute, redirectedPlan_commandNotFound_iff]
    exact ⟨hname, hmissing⟩

/-! ### The diagnosis -/

theorem dispatch_of_error (hexit : command.name ≠ "exit")
    (herror : (world.attempt registry command).1 = .error error) :
    ∃ code, error.HasStatus code ∧ world.dispatch registry command =
      (.ok (.status code), (world.attempt registry command).2.report error) := by
  obtain ⟨family, code, hstatus, hhandler⟩ := Route.handles (attempt_error herror)
  refine ⟨code, hstatus, ?_⟩
  rw [dispatch, if_neg hexit]
  generalize world.attempt registry command = result at herror ⊢
  obtain ⟨answer, after⟩ := result
  subst herror
  simp [conclude, hhandler]

theorem dispatch_of_ok (hexit : command.name ≠ "exit") {code : Int}
    (hcode : (world.attempt registry command).1 = .ok code) :
    world.dispatch registry command = (.ok (.status code), (world.attempt registry command).2) := by
  rw [dispatch, if_neg hexit]
  generalize world.attempt registry command = result at hcode ⊢
  obtain ⟨answer, after⟩ := result
  subst hcode
  rfl

/-- Behind what is carried out for a command comes its diagnostic, if anything does. -/
theorem execute_eq_takeAll (world : World) (registry : Registry)
    (hname : command.name ≠ "exit") :
    ∃ code steps, world.execute registry command =
        (.status code, (world.takeAll (world.attemptPlan registry command).steps).takeAll steps) ∧
      ∀ step ∈ steps, step.IsIdle := by
  cases hattempt : (world.attempt registry command).1 with
  | error error =>
      obtain ⟨code, _, hdispatch⟩ := dispatch_of_error hname hattempt
      rw [execute, hdispatch, attempt_eq]
      exact ⟨code, [.say .stderr error.message], rfl,
        List.forall_mem_singleton.mpr trivial⟩
  | ok code =>
      rw [execute, dispatch_of_ok hname hattempt, attempt_eq]
      exact ⟨code, [], rfl, List.forall_mem_nil _⟩

theorem execute_of_exit (world : World) (registry : Registry) (hname : command.name = "exit") :
    world.execute registry command = (.exit 0, world) := by
  simp [execute, dispatch, hname, settle]

/-- **A command ends the shell exactly if it is `exit`. Every other command has a status: it fails
with one diagnostic and the status of its error, or adds no diagnostic and has the status of its
route.** -/
theorem dispatch_diagnosed (world : World) (registry : Registry) (command : Command) :
    (command.name = "exit" → world.dispatch registry command = (.ok (.exit 0), world)) ∧
    (command.name ≠ "exit" → ∃ code after,
      world.dispatch registry command = (.ok (.status code), after) ∧
      (∀ error, (world.attempt registry command).1 = .error error →
        error.HasStatus code ∧ after.diagnostics = world.diagnostics ++ [error.message ++ "\n"]) ∧
      (∀ result, (world.attempt registry command).1 = .ok result →
        code = result ∧ (registry.route command.name).Yields world command code ∧
          after.diagnostics = world.diagnostics) ∧
      ∀ name, (world.attempt registry command).1 = .error (.commandNotFound name) ↔
        name = command.name ∧ command.name ≠ "cd" ∧ registry.get? command.name = none ∧
          (∃ file, (world.openRedirect command.redirect).1 = .ok file) ∧
          world.findExecutable command.name = none) := by
  refine ⟨fun hexit => by simp [dispatch, hexit], fun hexit => ?_⟩
  have hquiet := world.diagnostics_attempt registry command
  cases hattempt : (world.attempt registry command).1 with
  | error error =>
      obtain ⟨code, hstatus, hdispatch⟩ := dispatch_of_error hexit hattempt
      refine ⟨code, _, hdispatch, ?_, ?_, ?_⟩
      · intro other hother
        cases hother
        refine ⟨hstatus, ?_⟩
        rw [← hquiet]
        exact (shows_takeAll _ [.say .stderr error.message]).diagnostics
      · intro result hresult
        cases hresult
      · intro name
        rw [← hattempt]
        exact attempt_commandNotFound_iff
  | ok code =>
      refine ⟨code, _, dispatch_of_ok hexit hattempt, ?_, ?_, ?_⟩
      · intro error herror
        cases herror
      · intro result hresult
        cases hresult
        exact ⟨rfl, attempt_ok hattempt, hquiet⟩
      · intro name
        rw [← hattempt]
        exact attempt_commandNotFound_iff

def bare : World := ⟨⟨[]⟩, .root, [], .traceOnly, []⟩

theorem dispatch_missing_command :
    bare.dispatch .default ⟨"exit", ["x"], none⟩ = (.ok (.exit 0), bare) ∧
      (bare.dispatch .default ⟨"nosuch", ["x"], none⟩).1 = .ok (.status 127) ∧
      (bare.dispatch .default ⟨"nosuch", ["x"], none⟩).2.diagnostics =
        ["nosuch: command not found\n"] := by
  refine ⟨(dispatch_diagnosed bare .default ⟨"exit", ["x"], none⟩).1 rfl, ?_⟩
  obtain ⟨code, after, hdispatch, hfails, _, hmissing⟩ :=
    (dispatch_diagnosed bare .default ⟨"nosuch", ["x"], none⟩).2 (by decide)
  obtain ⟨hstatus, hdiagnostics⟩ :=
    hfails _ ((hmissing _).mpr ⟨rfl, by decide, rfl, ⟨none, rfl⟩, by decide⟩)
  rw [hdispatch]
  refine ⟨?_, hdiagnostics⟩
  cases hstatus with
  | builtin hbuiltin => cases hbuiltin
  | commandNotFound => rfl

end World

end LineShell
