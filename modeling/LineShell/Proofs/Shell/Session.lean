import LineShell.Proofs.Command.Diagnosis
import LineShell.Shell

/-!
# A session is a fold over its lines

Only a line whose command is `exit` ends the loop. So a session executes one line after another,
each after its own prompt and on the world that the previous one left, up to the first such line or
the end of the input.
-/

namespace LineShell

/-- The line is a command named `exit`, however it is spelled. -/
def Exits (line : String) : Prop :=
  ∃ command, Command.ofLine line = .ok (some command) ∧ command.name = "exit"

theorem Command.ofTokens_error {tokens : List Token} {error : ShellError}
    (herror : Command.ofTokens tokens = .error error) : error.isA .syntaxError := by
  cases tokens with
  | nil => cases herror
  | cons first rest =>
      dsimp only [Command.ofTokens] at herror
      split at herror
      · cases herror
        rfl
      · split at herror
        · cases herror
        · cases herror

namespace Shell

variable (shell : Shell) {world : World} {line : String} {lines : List String}

/-! ### One line -/

theorem executeLine_eq (world : World) (line : String) :
    ∃ noted, World.Logged world noted ∧
      shell.executeLine world line =
        match Command.ofLine line with
        | .error error => World.settle (World.conclude [(.syntaxError, 1)] (.error error, noted))
        | .ok none => (.status 0, noted)
        | .ok (some command) =>
          (noted.debug .shell ("resolved: " ++ command.describe)).execute shell.registry command :=
  ⟨_, World.logged_log world _, rfl⟩

theorem executeLine_of_not_exits (world : World) (hline : ¬ Exits line) :
    ∃ code, (shell.executeLine world line).1 = .status code := by
  obtain ⟨noted, _, hexecute⟩ := shell.executeLine_eq world line
  rw [hexecute]
  rcases hcommand : Command.ofLine line with error | _ | command
  · have hsyntax := Command.ofTokens_error hcommand
    exact ⟨1, by simp [World.conclude, hsyntax, World.settle]⟩
  · exact ⟨0, rfl⟩
  · have hname : command.name ≠ "exit" := fun hname => hline ⟨command, hcommand, hname⟩
    obtain ⟨code, steps, hcode, _⟩ := World.execute_eq_takeAll
      (noted.debug .shell ("resolved: " ++ command.describe)) shell.registry hname
    dsimp only
    rw [hcode]
    exact ⟨code, rfl⟩

theorem executeLine_of_exits (world : World) (hline : Exits line) :
    (shell.executeLine world line).1 = .exit 0 ∧
      World.Logged world (shell.executeLine world line).2 := by
  obtain ⟨noted, hnoted, hexecute⟩ := shell.executeLine_eq world line
  obtain ⟨command, hcommand, hname⟩ := hline
  rw [hexecute, hcommand]
  dsimp only
  rw [World.execute_of_exit _ shell.registry hname]
  exact ⟨rfl, hnoted.trans (World.logged_log noted _)⟩

/-- Nothing that has been done before a line is undone. -/
theorem exists_trace_executeLine (world : World) (line : String) :
    ∃ events, (shell.executeLine world line).2.trace = world.trace ++ events := by
  obtain ⟨noted, hnoted, hexecute⟩ := shell.executeLine_eq world line
  obtain ⟨logged, hlogged, _⟩ := hnoted.adds
  suffices htaken : ∃ steps, (shell.executeLine world line).2 = noted.takeAll steps by
    obtain ⟨steps, hsteps⟩ := htaken
    exact ⟨_, by rw [hsteps, World.trace_takeAll, hlogged, List.append_assoc]⟩
  rw [hexecute]
  rcases hcommand : Command.ofLine line with error | _ | command
  · have hsyntax := Command.ofTokens_error hcommand
    refine ⟨[.say .stderr error.message], ?_⟩
    simp only [World.conclude, hsyntax, List.find?_cons_of_pos, World.settle]
    rfl
  · exact ⟨[], rfl⟩
  · by_cases hname : command.name = "exit"
    · dsimp only
      rw [World.execute_of_exit _ shell.registry hname]
      exact ⟨[.log _], rfl⟩
    · obtain ⟨code, steps, hcode, _⟩ := World.execute_eq_takeAll
        (noted.debug .shell ("resolved: " ++ command.describe)) shell.registry hname
      dsimp only
      rw [hcode, ← World.takeAll_append]
      exact ⟨.log _ :: _, rfl⟩

/-! ### The fold -/

/-- What one line of the input does: a prompt and the execution of the line. -/
def step (world : World) (line : String) : World :=
  (shell.executeLine (world.write .stdout shell.prompt) line).2

/-- Where the line after these lines is read: they are executed and the prompt for it is written. -/
def readingAfter (world : World) (lines : List String) : World :=
  (lines.foldl shell.step world).write .stdout shell.prompt

def answer (world : World) (line : String) : List Event :=
  (shell.step world line).trace.drop (world.trace.length + 1)

/-- The answers to the lines, each on the world that the lines before it left. -/
def answers (world : World) : List String → List (List Event)
  | [] => []
  | line :: lines => shell.answer world line :: answers (shell.step world line) lines

theorem length_answers (world : World) (lines : List String) :
    (shell.answers world lines).length = lines.length := by
  induction lines generalizing world with
  | nil => rfl
  | cons line lines ih => rw [answers, List.length_cons, ih, List.length_cons]

theorem trace_step (world : World) (line : String) :
    (shell.step world line).trace =
      world.trace ++ .wrote .shell .stdout shell.prompt :: shell.answer world line := by
  obtain ⟨events, htrace⟩ :=
    shell.exists_trace_executeLine (world.write .stdout shell.prompt) line
  have hstep : (shell.step world line).trace =
      world.trace ++ .wrote .shell .stdout shell.prompt :: events := by
    rw [step, htrace]
    simp [World.write, World.emit]
  have hanswer : shell.answer world line = events := by
    rw [answer, hstep]
    simp
  rw [hstep, hanswer]

theorem trace_foldl_step (world : World) (lines : List String) :
    (lines.foldl shell.step world).trace =
      world.trace ++ (shell.answers world lines).flatMap fun answer =>
        .wrote .shell .stdout shell.prompt :: answer := by
  induction lines generalizing world with
  | nil => simp [answers]
  | cons line lines ih =>
      calc
        ((line :: lines).foldl shell.step world).trace =
            (shell.step world line).trace ++
              (shell.answers (shell.step world line) lines).flatMap fun answer =>
                .wrote .shell .stdout shell.prompt :: answer := ih (shell.step world line)
        _ = world.trace ++ (.wrote .shell .stdout shell.prompt :: shell.answer world line) ++
              (shell.answers (shell.step world line) lines).flatMap fun answer =>
                .wrote .shell .stdout shell.prompt :: answer := by rw [trace_step]
        _ = world.trace ++ (shell.answers world (line :: lines)).flatMap fun answer =>
              .wrote .shell .stdout shell.prompt :: answer := by
            rw [answers, List.flatMap_cons, List.append_assoc]

/-! ### The loop -/

theorem runLines_cons_of_not_exits (failure : Option String) (lines : List String)
    (world : World) (hline : ¬ Exits line) :
    shell.runLines failure (line :: lines) world =
      shell.runLines failure lines (shell.step world line) := by
  obtain ⟨code, hcode⟩ := shell.executeLine_of_not_exits (world.write .stdout shell.prompt) hline
  rw [runLines, step]
  generalize shell.executeLine (world.write .stdout shell.prompt) line = result at hcode ⊢
  obtain ⟨outcome, after⟩ := result
  subst hcode
  rfl

theorem runLines_cons_of_exits (failure : Option String) (lines : List String) (world : World)
    (hline : Exits line) :
    shell.runLines failure (line :: lines) world = (0, shell.step world line) := by
  have hexit := (shell.executeLine_of_exits (world.write .stdout shell.prompt) hline).1
  rw [runLines, step]
  generalize shell.executeLine (world.write .stdout shell.prompt) line = result at hexit ⊢
  obtain ⟨outcome, after⟩ := result
  subst hexit
  rfl

/-- Lines that do not exit are executed one after another, and the loop goes on behind them. -/
theorem runLines_append (failure : Option String) (later : List String) (world : World)
    (hlines : ∀ line ∈ lines, ¬ Exits line) :
    shell.runLines failure (lines ++ later) world =
      shell.runLines failure later (lines.foldl shell.step world) := by
  induction lines generalizing world with
  | nil => rfl
  | cons line lines ih =>
      obtain ⟨hline, hlines⟩ := List.forall_mem_cons.mp hlines
      calc
        shell.runLines failure (line :: lines ++ later) world =
            shell.runLines failure (lines ++ later) (shell.step world line) :=
          shell.runLines_cons_of_not_exits failure (lines ++ later) world hline
        _ = shell.runLines failure later (lines.foldl shell.step (shell.step world line)) :=
          ih (shell.step world line) hlines

theorem exists_first_exit (lines : List String) :
    (∀ line ∈ lines, ¬ Exits line) ∨
      ∃ before line after, lines = before ++ line :: after ∧
        (∀ earlier ∈ before, ¬ Exits earlier) ∧ Exits line := by
  induction lines with
  | nil => exact .inl (by simp)
  | cons first lines ih =>
      by_cases hfirst : Exits first
      · exact .inr ⟨[], first, lines, rfl, by simp, hfirst⟩
      · rcases ih with hnone | ⟨before, line, after, rfl, hbefore, hline⟩
        · exact .inl (List.forall_mem_cons.mpr ⟨hfirst, hnone⟩)
        · exact .inr ⟨first :: before, line, after, rfl,
            List.forall_mem_cons.mpr ⟨hfirst, hbefore⟩, hline⟩

theorem run_of_exits {input : Input} {before after : List String} (world : World)
    (hlines : input.lines = before ++ line :: after) (hbefore : ∀ earlier ∈ before, ¬ Exits earlier)
    (hline : Exits line) :
    shell.run input world = (0, (before ++ [line]).foldl shell.step world) := by
  calc
    shell.run input world = shell.runLines input.failure (before ++ line :: after) world := by
      rw [run, hlines]
    _ = shell.runLines input.failure (line :: after) (before.foldl shell.step world) :=
      shell.runLines_append input.failure (line :: after) world hbefore
    _ = (0, shell.step (before.foldl shell.step world) line) :=
      shell.runLines_cons_of_exits input.failure after _ hline
    _ = (0, (before ++ [line]).foldl shell.step world) := by
      rw [List.foldl_append, List.foldl_cons, List.foldl_nil]

theorem run_of_not_exits {input : Input} (world : World)
    (hlines : ∀ line ∈ input.lines, ¬ Exits line) :
    shell.run input world = atEnd (shell.readingAfter world input.lines) input.failure := by
  have hrun := shell.runLines_append input.failure [] world hlines
  rw [List.append_nil] at hrun
  rw [run, hrun, runLines, readingAfter]

theorem logged_step_of_exits (world : World) (hline : Exits line) :
    World.Logged (world.write .stdout shell.prompt) (shell.step world line) :=
  (shell.executeLine_of_exits _ hline).2

theorem fst_atEnd (world : World) (failure : Option String) :
    (atEnd world failure).1 = if failure = none then 0 else 1 := by
  cases failure <;> rfl

theorem fst_run (input : Input) (world : World) :
    ((shell.run input world).1 = 0 ∨ (shell.run input world).1 = 1) ∧
      ((shell.run input world).1 = 1 ↔
        input.failure ≠ none ∧ ∀ line ∈ input.lines, ¬ Exits line) := by
  rcases exists_first_exit input.lines with hnone | ⟨before, line, after, hlines, hbefore, hline⟩
  · rw [shell.run_of_not_exits world hnone, fst_atEnd]
    by_cases hfailure : input.failure = none
    · simp [hfailure]
    · simpa [hfailure] using hnone
  · rw [shell.run_of_exits world hlines hbefore hline]
    refine ⟨.inl rfl, fun hone => absurd hone (by simp), ?_⟩
    rintro ⟨_, hnone⟩
    exact absurd hline (hnone line (by simp [hlines]))

/-- **A session has the effect of a fold over its lines: up to the first that exits, or over all of
them, and then a last prompt and the end of the input.** -/
theorem run_eq_foldl_step (shell : Shell) (input : Input) (world : World) :
    (∀ before line after, input.lines = before ++ line :: after →
      (∀ earlier ∈ before, ¬ Exits earlier) → Exits line →
      shell.run input world = (0, (before ++ [line]).foldl shell.step world) ∧
        World.Logged (shell.readingAfter world before) (shell.run input world).2) ∧
    ((∀ line ∈ input.lines, ¬ Exits line) →
      (input.failure = none →
        shell.run input world = (0, (shell.readingAfter world input.lines).write .stdout "\n")) ∧
      ∀ error, input.failure = some error →
        shell.run input world =
          (1, ((shell.readingAfter world input.lines).log
            ⟨.error, .shell, "cannot read standard input: " ++ error⟩).write .stderr
              ("error reading input: " ++ error ++ "\n"))) ∧
    (∀ lines, (shell.answers world lines).length = lines.length ∧
      (lines.foldl shell.step world).trace =
        world.trace ++ (shell.answers world lines).flatMap fun answer =>
          .wrote .shell .stdout shell.prompt :: answer) ∧
    ((shell.run input world).1 = 0 ∨ (shell.run input world).1 = 1) ∧
    ((shell.run input world).1 = 1 ↔
      input.failure ≠ none ∧ ∀ line ∈ input.lines, ¬ Exits line) := by
  refine ⟨?_, ?_, fun lines =>
    ⟨shell.length_answers world lines, shell.trace_foldl_step world lines⟩,
    shell.fst_run input world⟩
  · intro before line after hlines hbefore hline
    have hrun := shell.run_of_exits world hlines hbefore hline
    refine ⟨hrun, ?_⟩
    rw [hrun, List.foldl_append]
    exact shell.logged_step_of_exits _ hline
  · intro hlines
    have hrun := shell.run_of_not_exits world hlines
    constructor
    · intro hfailure
      rw [hrun, hfailure]
      rfl
    · intro error hfailure
      rw [hrun, hfailure]
      rfl

/-- Nothing is read after a line that exits. -/
theorem run_exit_before_error :
    Shell.run ⟨.default, "$ "⟩ ⟨["", "'exit' 1 > f", "pwd"], some "[Errno 5] Input/output error"⟩
      .bare = (0, ["", "'exit' 1 > f"].foldl (Shell.step ⟨.default, "$ "⟩) .bare) :=
  ((run_eq_foldl_step ⟨.default, "$ "⟩ _ .bare).1 [""] "'exit' 1 > f" ["pwd"] rfl
    (by
      rintro earlier hearlier ⟨command, hcommand, _⟩
      rw [List.mem_singleton.mp hearlier] at hcommand
      cases hcommand)
    ⟨⟨"exit", ["1"], some ⟨.stdout, "f", false⟩⟩, rfl, rfl⟩).1

end Shell

end LineShell
