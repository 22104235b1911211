import LineShell.Proofs.World.Trace

/-!
# What operations leave alone

An operation touches the files it is given and leaves every other file alone, the log file aside. A
file that is not truncated only grows, also the log file. `TouchesOnly` says this of two worlds, and
`Logged` that nothing but log records lies between them.
-/

namespace LineShell

/-- The step stays and touches no file but those given, each for appending or not. -/
def Step.Within (touched : Path → Bool → Prop) : Step → Prop
  | emit _ | log _ => True
  | openFile path append | write path append _ => touched path append
  | move _ => False

/-- The step stays and touches no file. -/
def Step.IsIdle (step : Step) : Prop := step.Within fun _ _ => False

theorem Step.IsIdle.within {step : Step} (hidle : step.IsIdle) (touched : Path → Bool → Prop) :
    step.Within touched := by
  cases step with
  | emit | log => trivial
  | openFile | write | move => exact False.elim hidle

namespace World

variable {world before between after : World} {touched : Path → Bool → Prop} {step : Step}
  {steps : List Step}

/-! ### Worlds that are alike -/

/-- Neither a search for programs nor the start of one can tell the worlds apart. -/
structure SearchesAlike (world other : World) : Prop where
  cwd : other.cwd = world.cwd
  env : other.env = world.env
  sight : other.files.sight = world.files.sight
  logPath : other.logging.path? = world.logging.path?

/-- No operation can tell the worlds apart that does not look at what a file holds. -/
structure Alike (world other : World) : Prop where
  cwd : other.cwd = world.cwd
  env : other.env = world.env
  outline : other.files.outline = world.files.outline
  logPath : other.logging.path? = world.logging.path?

theorem Alike.searchesAlike (halike : Alike before after) : SearchesAlike before after where
  cwd := halike.cwd
  env := halike.env
  sight := FileSystem.sight_eq_of_outline_eq halike.outline
  logPath := halike.logPath

theorem SearchesAlike.programAt? (halike : SearchesAlike before after) (path : String) :
    after.programAt? path = before.programAt? path := by
  unfold World.programAt?
  rw [halike.cwd, FileSystem.program_fileAt?_congr halike.sight]

theorem SearchesAlike.findExecutable (halike : SearchesAlike before after) (name : String) :
    after.findExecutable name = before.findExecutable name := by
  unfold World.findExecutable searchPath valueOf
  simp only [halike.programAt?, halike.env]

theorem SearchesAlike.ending? (halike : SearchesAlike before after) :
    after.ending? = before.ending? := by
  funext executable opened
  unfold World.ending? isOpen
  rw [halike.programAt?, halike.cwd, FileSystem.toOption_targetAt_congr halike.sight,
    halike.logPath]

/-! ### Targets -/

/-- A path text denotes a path at which a file can be opened for writing. -/
def Denotes (world : World) (text : String) (path : Path) : Prop :=
  hasNul text = false ∧ world.files.targetAt world.cwd text = .ok path

theorem Denotes.unique {text : String} {path other : Path} (hpath : world.Denotes text path)
    (hother : world.Denotes text other) : other = path :=
  Except.ok.inj (hother.2.symm.trans hpath.2)

theorem toOption_eq_some_iff {result : Except SystemError Path} {path : Path} :
    result.toOption = some path ↔ result = .ok path := by
  cases result <;> simp [Except.toOption]

instance (world : World) (text : String) (path : Path) : Decidable (world.Denotes text path) :=
  decidable_of_iff
    (hasNul text = false ∧ (world.files.targetAt world.cwd text).toOption = some path)
    (and_congr_right fun _ => toOption_eq_some_iff)

theorem SearchesAlike.denotes_iff (halike : SearchesAlike before after) {text : String}
    {path : Path} : after.Denotes text path ↔ before.Denotes text path := by
  rw [Denotes, Denotes, ← toOption_eq_some_iff, ← toOption_eq_some_iff, halike.cwd,
    FileSystem.toOption_targetAt_congr halike.sight]

/-! ### The frame -/

/-- Between two worlds no file is changed but those touched, each for appending or not, and the log
file. -/
structure TouchesOnly (touched : Path → Bool → Prop) (before after : World) : Prop where
  cwd : after.cwd = before.cwd
  env : after.env = before.env
  logging : after.logging = before.logging
  becomes : ∀ path, Node.Becomes (before.files.find? path) (after.files.find? path)
  elsewhere : ∀ path, before.logging.path? ≠ some path → (∀ append, ¬ touched path append) →
    after.files.find? path = before.files.find? path
  grows : ∀ path, ¬ touched path false →
    ∃ more, after.files.textAt path = before.files.textAt path ++ more

theorem TouchesOnly.refl (touched : Path → Bool → Prop) (world : World) :
    TouchesOnly touched world world where
  cwd := rfl
  env := rfl
  logging := rfl
  becomes _ := .kept _
  elsewhere _ _ _ := rfl
  grows _ _ := ⟨"", String.append_empty.symm⟩

theorem TouchesOnly.trans (hfirst : TouchesOnly touched before between)
    (hsecond : TouchesOnly touched between after) : TouchesOnly touched before after where
  cwd := hsecond.cwd.trans hfirst.cwd
  env := hsecond.env.trans hfirst.env
  logging := hsecond.logging.trans hfirst.logging
  becomes path := (hfirst.becomes path).trans (hsecond.becomes path)
  elsewhere path hlog htouched :=
    (hsecond.elsewhere path (hfirst.logging ▸ hlog) htouched).trans
      (hfirst.elsewhere path hlog htouched)
  grows path htouched := by
    obtain ⟨first, hfirst⟩ := hfirst.grows path htouched
    obtain ⟨second, hsecond⟩ := hsecond.grows path htouched
    exact ⟨first ++ second, by rw [hsecond, hfirst, String.append_assoc]⟩

theorem TouchesOnly.mono {other : Path → Bool → Prop} (htouches : TouchesOnly touched before after)
    (htouched : ∀ path append, touched path append → other path append) :
    TouchesOnly other before after where
  cwd := htouches.cwd
  env := htouches.env
  logging := htouches.logging
  becomes := htouches.becomes
  elsewhere path hlog hother :=
    htouches.elsewhere path hlog fun append => mt (htouched path append) (hother append)
  grows path hother := htouches.grows path (mt (htouched path false) hother)

/-- Where the shell stands does not matter to what is touched. -/
theorem TouchesOnly.withCwd (htouches : TouchesOnly touched before after) (place : Place) :
    TouchesOnly touched { before with cwd := place } { after with cwd := place } :=
  ⟨rfl, htouches.env, htouches.logging, htouches.becomes, htouches.elsewhere, htouches.grows⟩

theorem TouchesOnly.searchesAlike (htouches : TouchesOnly touched before after) :
    SearchesAlike before after where
  cwd := htouches.cwd
  env := htouches.env
  sight := FileSystem.sight_eq_of_becomes htouches.becomes
  logPath := congrArg Logging.path? htouches.logging

theorem touchesOnly_take (world : World) (step : Step) (hwithin : step.Within touched) :
    TouchesOnly touched world (world.take step) := by
  have hkeeps := world.becomes_take step
  cases step with
  | emit event =>
      exact ⟨rfl, rfl, rfl, hkeeps, fun _ _ _ => rfl, fun _ _ => ⟨"", String.append_empty.symm⟩⟩
  | log record =>
      refine ⟨by simp [take, log_eq], env_take _ _, logging_take _ _, hkeeps, ?_, ?_⟩
      · intro path hlog _
        rw [take, log_eq]
        exact Logging.find?_keep hlog record world.files
      · intro path _
        rw [take, log_eq]
        exact world.logging.textAt_keep record world.files path
  | openFile target append =>
      have helsewhere : ∀ path, ¬ touched path append →
          (world.files.openFile target append).find? path = world.files.find? path := by
        intro path hpath
        refine FileSystem.find?_openFile_of_ne ?_ append
        rintro rfl
        exact hpath hwithin
      refine ⟨rfl, rfl, rfl, hkeeps, fun path _ hpath => helsewhere path (hpath append), ?_⟩
      intro path hpath
      refine ⟨"", ?_⟩
      rw [String.append_empty]
      cases append with
      | true => exact world.files.textAt_openFile_append target path
      | false => exact FileSystem.textAt_congr (helsewhere path hpath)
  | write target append text =>
      have helsewhere : ∀ path, ¬ touched path append →
          (world.files.written target append text).find? path = world.files.find? path := by
        intro path hpath
        refine FileSystem.find?_written_of_ne ?_ append text
        rintro rfl
        exact hpath hwithin
      refine ⟨rfl, rfl, rfl, hkeeps, fun path _ hpath => helsewhere path (hpath append), ?_⟩
      intro path hpath
      cases append with
      | true => exact world.files.textAt_written_append target text path
      | false =>
          refine ⟨"", ?_⟩
          rw [String.append_empty]
          exact FileSystem.textAt_congr (helsewhere path hpath)
  | move place => exact hwithin.elim

theorem touchesOnly_takeAll (world : World) (hwithin : ∀ step ∈ steps, step.Within touched) :
    TouchesOnly touched world (world.takeAll steps) := by
  induction steps generalizing world with
  | nil => exact TouchesOnly.refl touched world
  | cons step steps ih =>
      obtain ⟨hstep, hsteps⟩ := List.forall_mem_cons.mp hwithin
      exact (touchesOnly_take world step hstep).trans (ih (world.take step) hsteps)

/-! ### Log records -/

/-- Nothing but log records lies between two worlds. -/
structure Logged (before after : World) : Prop where
  cwd : after.cwd = before.cwd
  env : after.env = before.env
  logging : after.logging = before.logging
  outline : after.files.outline = before.files.outline
  find? : ∀ path, before.logging.path? ≠ some path →
    after.files.find? path = before.files.find? path
  adds : Adds Event.IsLog before after

theorem Logged.refl (world : World) : Logged world world :=
  ⟨rfl, rfl, rfl, rfl, fun _ _ => rfl, Adds.refl _ world⟩

theorem Logged.trans (hfirst : Logged before between) (hsecond : Logged between after) :
    Logged before after where
  cwd := hsecond.cwd.trans hfirst.cwd
  env := hsecond.env.trans hfirst.env
  logging := hsecond.logging.trans hfirst.logging
  outline := hsecond.outline.trans hfirst.outline
  find? := by
    intro path hpath
    rw [hsecond.find? path (hfirst.logging ▸ hpath), hfirst.find? path hpath]
  adds := hfirst.adds.trans hsecond.adds

theorem logged_log (world : World) (record : Record) : Logged world (world.log record) := by
  have htouches : TouchesOnly (fun _ _ => False) world (world.log record) :=
    touchesOnly_take world (.log record) trivial
  refine ⟨htouches.cwd, htouches.env, htouches.logging, ?_, ?_, ?_⟩
  · rw [log_eq]
    exact world.logging.outline_keep record world.files
  · exact fun path hpath => htouches.elsewhere path hpath fun _ => id
  · refine ⟨_, world.trace_take (.log record), fun event hevent => ?_⟩
    rcases List.mem_cons.mp hevent with rfl | hline
    · trivial
    · obtain ⟨text, rfl⟩ := Logging.eq_of_mem_lines hline
      trivial

theorem Logged.alike (hlogged : Logged before after) : Alike before after where
  cwd := hlogged.cwd
  env := hlogged.env
  outline := hlogged.outline
  logPath := congrArg Logging.path? hlogged.logging

theorem Logged.performs (hlogged : Logged before after) : Performs [] before after := by
  obtain ⟨added, htrace, hadded⟩ := hlogged.adds
  refine ⟨added, htrace, List.filter_eq_nil_iff.mpr fun event hevent => ?_⟩
  simpa using hadded event hevent

end World

end LineShell
