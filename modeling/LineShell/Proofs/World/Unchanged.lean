import LineShell.Proofs.World.Output

/-!
# Worlds in which nothing has changed

An operation may leave everything as it was and only show something. `Unchanged` says that nothing
else has happened, and `Stores` that one file has been given a text, and nothing else has happened.
A log file takes its records all the same.
-/

namespace LineShell

namespace World

variable {world before between after : World} {events first second : List Event}
  {steps : List Step}

/-- Between two worlds nothing but the events has happened. A log file may have grown. -/
structure Unchanged (events : List Event) (before after : World) : Prop where
  cwd : after.cwd = before.cwd
  env : after.env = before.env
  logging : after.logging = before.logging
  /-- no file or directory comes or goes, and programs stay -/
  outline : after.files.outline = before.files.outline
  find? : ∀ path, before.logging.path? ≠ some path →
    after.files.find? path = before.files.find? path
  grows : ∀ path, ∃ more, after.files.textAt path = before.files.textAt path ++ more
  performs : Performs events before after

theorem Unchanged.trans (hfirst : Unchanged first before between)
    (hsecond : Unchanged second between after) : Unchanged (first ++ second) before after where
  cwd := hsecond.cwd.trans hfirst.cwd
  env := hsecond.env.trans hfirst.env
  logging := hsecond.logging.trans hfirst.logging
  outline := hsecond.outline.trans hfirst.outline
  find? path hlog :=
    (hsecond.find? path (hfirst.logging ▸ hlog)).trans (hfirst.find? path hlog)
  grows path := by
    obtain ⟨firstMore, hfirstMore⟩ := hfirst.grows path
    obtain ⟨secondMore, hsecondMore⟩ := hsecond.grows path
    exact ⟨firstMore ++ secondMore, by rw [hsecondMore, hfirstMore, String.append_assoc]⟩
  performs := hfirst.performs.trans hsecond.performs

theorem outline_take_of_isIdle (world : World) {step : Step} (hidle : step.IsIdle) :
    (world.take step).files.outline = world.files.outline := by
  cases step with
  | emit => rfl
  | log record =>
      rw [take, log_eq]
      exact world.logging.outline_keep record world.files
  | openFile | write | move => exact False.elim hidle

theorem unchanged_takeAll (world : World) (hidle : ∀ step ∈ steps, step.IsIdle) :
    Unchanged (steps.flatMap Step.performed) world (world.takeAll steps) := by
  have htouches := touchesOnly_takeAll world hidle
  refine ⟨htouches.cwd, htouches.env, htouches.logging, ?_, ?_, ?_, world.performs_takeAll steps⟩
  · induction steps generalizing world with
    | nil => rfl
    | cons step steps ih =>
        obtain ⟨hstep, hsteps⟩ := List.forall_mem_cons.mp hidle
        rw [takeAll_cons, ih (world.take step) hsteps (touchesOnly_takeAll _ hsteps),
          world.outline_take_of_isIdle hstep]
  · exact fun path hlog => htouches.elsewhere path hlog fun _ => id
  · exact fun path => htouches.grows path id

theorem unchanged_log (world : World) (record : Record) :
    Unchanged [] world (world.log record) := by
  have hidle : ∀ step ∈ [Step.log record], step.IsIdle := List.forall_mem_singleton.mpr trivial
  exact unchanged_takeAll world hidle

theorem unchanged_printLine (world : World) (stream : Descriptor) (text : String) :
    Unchanged [.wrote .shell stream (text ++ "\n")] world (world.printLine stream text) := by
  have hidle : ∀ step ∈ [Step.say stream text], step.IsIdle :=
    List.forall_mem_singleton.mpr trivial
  exact unchanged_takeAll world hidle

theorem Unchanged.alike (hunchanged : Unchanged events before after) : Alike before after where
  cwd := hunchanged.cwd
  env := hunchanged.env
  outline := hunchanged.outline
  logPath := congrArg Logging.path? hunchanged.logging

/-! ### One file -/

/-- Between two worlds nothing has happened but that one file was given a text. A log file may have
grown. -/
structure Stores (path : Path) (append : Bool) (text : String) (before after : World) : Prop where
  cwd : after.cwd = before.cwd
  env : after.env = before.env
  target : before.logging.path? ≠ some path → after.files.find? path =
    some (.file ⟨(if append then before.files.textAt path else "") ++ text,
      (before.files.sight path).2⟩)
  elsewhere : ∀ other, other ≠ path → before.logging.path? ≠ some other →
    after.files.find? other = before.files.find? other
  performs : Performs [] before after

theorem Unchanged.trans_stores {path : Path} {append : Bool} {text : String}
    (hfirst : Unchanged [] before between) (hsecond : Stores path append text between after) :
    Stores path append text before after where
  cwd := hsecond.cwd.trans hfirst.cwd
  env := hsecond.env.trans hfirst.env
  target hlog := by
    have htext : between.files.textAt path = before.files.textAt path :=
      FileSystem.textAt_congr (hfirst.find? path hlog)
    rw [hsecond.target (hfirst.logging ▸ hlog), htext,
      FileSystem.sight_eq_of_outline_eq hfirst.outline]
  elsewhere other hne hlog :=
    (hsecond.elsewhere other hne (hfirst.logging ▸ hlog)).trans (hfirst.find? other hlog)
  performs := hfirst.performs.trans hsecond.performs

theorem writeOutput_stores {spec : String} {path : Path} (hfile : world.DenotesFile spec path)
    (text : String) (append : Bool) :
    ∃ after, world.writeOutput spec text append = (.ok (), after) ∧
      Stores path append text world after := by
  refine ⟨_, writeOutput_of_denotesFile hfile text append, rfl, rfl, fun _ => ?_,
    fun other hne _ => ?_, .of_trace_eq rfl⟩
  · rw [FileSystem.find?_store hfile.2, if_pos rfl]
  · rw [FileSystem.find?_store hfile.2, if_neg hne]

end World

end LineShell
