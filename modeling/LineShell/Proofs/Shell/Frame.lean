import LineShell.Proofs.Command.Naming
import LineShell.Proofs.Shell.Session
import Mathlib.Tactic.ByContra

/-!
# What a sequence of lines leaves alone

Directories, programs and the environment stay as they are, and no file is removed. The working
directory is moved by `cd` alone, and each line changes at most one file: the one that its redirect
denotes from the working directory of that moment. What a line leaves in a file that it truncates
does not depend on what was there, unless a builtin answers with what files hold. Besides, a log
file takes the records of every line, so what is said of the files that change leaves the log file
aside. Since the search for programs sees directories and programs alone, names keep what they
denote.
-/

namespace LineShell

namespace Shell

variable (shell : Shell) {world : World} {line : String} {lines : List String} {command : Command}
  {redirect : Redirect} {path : Path}

/-! ### One line -/

/-- Where the command of a line is dispatched: the line and the command have been recorded. -/
def dispatching (world : World) (line : String) (command : Command) : World :=
  (world.debug .shell ("tokens: " ++ Token.describeAll (tokenize line))).debug .shell
    ("resolved: " ++ command.describe)

def notes (line : String) (command : Command) : List Step :=
  [.log ⟨.debug, .shell, "tokens: " ++ Token.describeAll (tokenize line)⟩,
    .log ⟨.debug, .shell, "resolved: " ++ command.describe⟩]

theorem isIdle_of_mem_notes : ∀ step ∈ notes line command, step.IsIdle :=
  List.forall_mem_cons.mpr ⟨trivial, List.forall_mem_singleton.mpr trivial⟩

theorem logged_dispatching (world : World) (line : String) (command : Command) :
    World.Logged world (dispatching world line command) :=
  (World.logged_log world _).trans (World.logged_log _ _)

theorem executeLine_of_command (world : World) (hparse : Command.ofLine line = .ok (some command)) :
    shell.executeLine world line =
      (dispatching world line command).execute shell.registry command := by
  unfold executeLine
  rw [Command.ofLine] at hparse
  simp only [hparse, dispatching]

/-- What the builtin of a line answers, if the line is the command of a builtin. -/
def answer? (world : World) (line : String) : Option (Except ShellError String) :=
  match Command.ofLine line with
  | .ok (some command) => (dispatching world line command).answer shell.registry command
  | _ => none

theorem answer?_of_command (world : World) (hparse : Command.ofLine line = .ok (some command)) :
    shell.answer? world line = (dispatching world line command).answer shell.registry command := by
  rw [answer?, hparse]

/-- The line touches the file at a path: it is a command with a redirect, named neither `exit` nor
`cd`, the redirect denotes the path from the working directory, and no builtin fails before. -/
structure Redirects (world : World) (line : String) (command : Command) (redirect : Redirect)
    (path : Path) : Prop where
  parsed : Command.ofLine line = .ok (some command)
  name_ne_exit : command.name ≠ "exit"
  name_ne_cd : command.name ≠ "cd"
  redirected : command.redirect = some redirect
  denotes : world.Denotes redirect.path path
  answered : ∀ error, shell.answer? world line ≠ some (.error error)

theorem redirects_iff (hparse : Command.ofLine line = .ok (some command)) :
    shell.Redirects world line command redirect path ↔
      (dispatching world line command).Redirects shell.registry command redirect path := by
  have hdenotes : (dispatching world line command).Denotes redirect.path path ↔
      world.Denotes redirect.path path :=
    (logged_dispatching world line command).alike.searchesAlike.denotes_iff
  have hanswer := shell.answer?_of_command world hparse
  constructor
  · rintro ⟨_, hexit, hcd, hredirect, hpath, hanswered⟩
    exact ⟨hexit, hcd, hredirect, hdenotes.mpr hpath, hanswer ▸ hanswered⟩
  · rintro ⟨hexit, hcd, hredirect, hpath, hanswered⟩
    exact ⟨hparse, hexit, hcd, hredirect, hdenotes.mp hpath, hanswer ▸ hanswered⟩

/-- What a line leaves alone, and what it makes of the rest. -/
structure Framed (world : World) (line : String) : Prop where
  env : (shell.executeLine world line).2.env = world.env
  logging : (shell.executeLine world line).2.logging = world.logging
  /-- no directory comes or goes, no file goes, programs stay, and a new file has none -/
  becomes : ∀ path, Node.Becomes (world.files.find? path)
    ((shell.executeLine world line).2.files.find? path)
  moves : (shell.executeLine world line).2.cwd ≠ world.cwd →
    (∃ command, Command.ofLine line = .ok (some command) ∧ command.name = "cd") ∧
      (shell.executeLine world line).1 = .status 0
  changes : ∀ path, world.logging.path? ≠ some path →
    (shell.executeLine world line).2.files.find? path ≠ world.files.find? path →
      ∃ command redirect, shell.Redirects world line command redirect path
  /-- a file that is not truncated keeps its text in front -/
  grows : ∀ path,
    (∀ command redirect, shell.Redirects world line command redirect path →
      redirect.append = true) →
      ∃ more, (shell.executeLine world line).2.files.textAt path = world.files.textAt path ++ more
  /-- after a truncation the text from before plays no part -/
  truncates : shell.registry.ReadsNoFile → ∀ command redirect path,
    shell.Redirects world line command redirect path → redirect.append = false → ∀ text,
      shell.executeLine (world.rewrite path text) line = shell.executeLine world line

/-- The files that a line touches, each for appending or not. -/
def Touched (world : World) (line : String) (path : Path) (append : Bool) : Prop :=
  ∃ command redirect, shell.Redirects world line command redirect path ∧ redirect.append = append

/-- A line moves, and touches no file, or touches its target and stays. -/
theorem executeLine_touchesOnly (world : World) (line : String) :
    ∃ place, World.TouchesOnly (shell.Touched world line) { world with cwd := place }
        (shell.executeLine world line).2 ∧
      (place = world.cwd ∨
        (∃ command, Command.ofLine line = .ok (some command) ∧ command.name = "cd") ∧
          (shell.executeLine world line).1 = .status 0) := by
  have hlog : ∀ (world : World) record,
      World.TouchesOnly (shell.Touched world line) world (world.log record) :=
    fun world _ => world.touchesOnly_take (.log _) trivial
  rcases hparse : Command.ofLine line with error | _ | command
  · have hsyntax := Command.ofTokens_error hparse
    refine ⟨world.cwd, ?_, .inl rfl⟩
    rw [executeLine, show Command.ofTokens (tokenize line) = .error error from hparse]
    simp only [World.conclude, hsyntax, List.find?_cons_of_pos, World.settle]
    exact (hlog world _).trans (World.touchesOnly_take _ (.say .stderr _) trivial)
  · refine ⟨world.cwd, ?_, .inl rfl⟩
    rw [executeLine, show Command.ofTokens (tokenize line) = .ok none from hparse]
    exact hlog world _
  · rw [shell.executeLine_of_command world hparse]
    have hdispatching : World.TouchesOnly (shell.Touched world line) world
        (dispatching world line command) :=
      World.touchesOnly_takeAll world fun step hstep =>
        (isIdle_of_mem_notes step hstep).within _
    by_cases hcd : command.name = "cd"
    · obtain ⟨place, htouches, hplace⟩ := World.execute_cd_moves (shell.Touched world line)
        (dispatching world line command) shell.registry hcd
      refine ⟨place, (hdispatching.withCwd place).trans htouches, ?_⟩
      rcases hplace with hstays | hstatus
      · exact .inl (hstays.trans hdispatching.cwd)
      · exact .inr ⟨⟨command, rfl, hcd⟩, hstatus⟩
    · refine ⟨world.cwd, hdispatching.trans (World.execute_touchesOnly hcd ?_), .inl rfl⟩
      intro redirect path hredirects
      exact ⟨command, redirect, (shell.redirects_iff hparse).mpr hredirects, rfl⟩

theorem executeLine_rewrite (hredirects : shell.Redirects world line command redirect path)
    (htruncates : redirect.append = false) (hreads : shell.registry.ReadsNoFile)
    (text : String) :
    shell.executeLine (world.rewrite path text) line = shell.executeLine world line := by
  have hparse := hredirects.parsed
  have hnotes : ∃ other, dispatching (world.rewrite path text) line command =
      (dispatching world line command).rewrite path other :=
    world.takeAll_rewrite_of_isIdle path text isIdle_of_mem_notes
  obtain ⟨other, hother⟩ := hnotes
  rw [shell.executeLine_of_command _ hparse, shell.executeLine_of_command _ hparse, hother]
  exact World.execute_rewrite ((shell.redirects_iff hparse).mp hredirects) htruncates hreads other

theorem framed (world : World) (line : String) : shell.Framed world line := by
  obtain ⟨place, htouches, hplace⟩ := shell.executeLine_touchesOnly world line
  refine ⟨htouches.env, htouches.logging, htouches.becomes, ?_, ?_, ?_, ?_⟩
  · intro hmoves
    exact hplace.resolve_left fun hstays => hmoves (htouches.cwd.trans hstays)
  · intro path hlog hchanges
    by_contra huntouched
    refine hchanges (htouches.elsewhere path hlog ?_)
    rintro append ⟨command, redirect, hredirects, _⟩
    exact huntouched ⟨command, redirect, hredirects⟩
  · intro path happends
    refine htouches.grows path ?_
    rintro ⟨command, redirect, hredirects, htruncates⟩
    simp [happends command redirect hredirects] at htruncates
  · intro hreads command redirect path hredirects htruncates text
    exact shell.executeLine_rewrite hredirects htruncates hreads text

/-! ### A sequence of lines -/

def executeLines (world : World) (lines : List String) : World :=
  lines.foldl (fun world line => (shell.executeLine world line).2) world

theorem exists_line_of_ne {α : Type} (view : World → α) {world : World} {lines : List String}
    (hne : view (shell.executeLines world lines) ≠ view world) :
    ∃ before line after, lines = before ++ line :: after ∧
      view (shell.executeLine (shell.executeLines world before) line).2 ≠
        view (shell.executeLines world before) := by
  induction lines generalizing world with
  | nil => exact absurd rfl hne
  | cons line lines ih =>
      by_cases hfirst : view (shell.executeLine world line).2 = view world
      · rw [← hfirst] at hne
        obtain ⟨before, later, after, rfl, hchange⟩ := ih hne
        exact ⟨line :: before, later, after, rfl, hchange⟩
      · exact ⟨[], line, lines, rfl, hfirst⟩

theorem executeLines_keeps (world : World) (lines : List String) :
    (shell.executeLines world lines).env = world.env ∧
      (shell.executeLines world lines).logging = world.logging ∧
      ∀ path, Node.Becomes (world.files.find? path)
        ((shell.executeLines world lines).files.find? path) := by
  induction lines generalizing world with
  | nil => exact ⟨rfl, rfl, fun path => .kept _⟩
  | cons line lines ih =>
      have hline := shell.framed world line
      obtain ⟨henv, hlogging, hbecomes⟩ := ih (shell.executeLine world line).2
      exact ⟨henv.trans hline.env, hlogging.trans hline.logging,
        fun path => (hline.becomes path).trans (hbecomes path)⟩

/-- **The frame of a sequence of lines.** Directories, programs and variables stay, the working
directory is moved by `cd` alone, a file is changed by a redirect to it alone, and each line keeps
its own frame. -/
theorem executeLines_framed (shell : Shell) (world : World) (lines : List String) :
    (shell.executeLines world lines).env = world.env ∧
    (∀ path, Node.Becomes (world.files.find? path)
      ((shell.executeLines world lines).files.find? path)) ∧
    ((shell.executeLines world lines).cwd ≠ world.cwd →
      ∃ before line after command, lines = before ++ line :: after ∧
        Command.ofLine line = .ok (some command) ∧ command.name = "cd" ∧
        (shell.executeLine (shell.executeLines world before) line).1 = .status 0) ∧
    (∀ path, world.logging.path? ≠ some path →
      (shell.executeLines world lines).files.find? path ≠ world.files.find? path →
        ∃ before line after command redirect, lines = before ++ line :: after ∧
          shell.Redirects (shell.executeLines world before) line command redirect path) ∧
    ∀ before line after, lines = before ++ line :: after →
      shell.Framed (shell.executeLines world before) line := by
  obtain ⟨henv, _, hbecomes⟩ := shell.executeLines_keeps world lines
  refine ⟨henv, hbecomes, ?_, ?_, fun before line _ _ => shell.framed _ line⟩
  · intro hmoved
    obtain ⟨before, line, after, hlines, hmoves⟩ := shell.exists_line_of_ne World.cwd hmoved
    obtain ⟨⟨command, hparse, hname⟩, hstatus⟩ := (shell.framed _ line).moves hmoves
    exact ⟨before, line, after, command, hlines, hparse, hname, hstatus⟩
  · intro path hlog hchanged
    obtain ⟨before, line, after, hlines, hchanges⟩ :=
      shell.exists_line_of_ne (fun world => world.files.find? path) hchanged
    have hlogging := (shell.executeLines_keeps world before).2.1
    obtain ⟨command, redirect, hredirects⟩ :=
      (shell.framed _ line).changes path (hlogging ▸ hlog) hchanges
    exact ⟨before, line, after, command, redirect, hlines, hredirects⟩

/-- A file that a later line truncates from another directory ends alike whatever it held. -/
theorem executeLines_truncating :
    let world : World :=
      { World.bare with files := ⟨[(["f"], .file ⟨"old", none⟩), (["d"], .directory)]⟩ }
    let moved := Shell.executeLines ⟨.default, "$ "⟩ world ["cd d"]
    ∀ text, Shell.executeLine ⟨.default, "$ "⟩ (moved.rewrite ["f"] text) "type x 2> ../f" =
      Shell.executeLine ⟨.default, "$ "⟩ moved "type x 2> ../f" := by
  intro world moved
  obtain ⟨_, _, _, _, hframed⟩ :=
    executeLines_framed ⟨.default, "$ "⟩ world ["cd d", "type x 2> ../f"]
  refine (hframed ["cd d"] "type x 2> ../f" [] rfl).truncates World.readsNoFile_default
    ⟨"type", ["x"], some ⟨.stderr, "../f", false⟩⟩ ⟨.stderr, "../f", false⟩ ["f"] ?_ rfl
  exact ⟨by rfl, by decide, by decide, rfl, by decide +kernel, nofun⟩

/-! ### What names denote -/

/-- A search cannot tell whether lines have been executed, as long as it starts from where it
started. -/
theorem executeLines_searchesAlike (hcwd : (shell.executeLines world lines).cwd = world.cwd) :
    World.SearchesAlike world (shell.executeLines world lines) := by
  obtain ⟨henv, hlogging, hbecomes⟩ := shell.executeLines_keeps world lines
  exact ⟨hcwd, henv, FileSystem.sight_eq_of_becomes hbecomes, congrArg Logging.path? hlogging⟩

/-- **Names keep what they denote.** After lines that end where they began every name has the
executable and the conduct that it had, and `type` says the same, whatever files the lines have
created or written to. -/
theorem executeLines_findExecutable (shell : Shell) (world : World) (lines : List String)
    (hcwd : (shell.executeLines world lines).cwd = world.cwd) :
    (∀ name, (shell.executeLines world lines).findExecutable name = world.findExecutable name) ∧
    (∀ names, shell.registry.ask .type (shell.executeLines world lines) names =
      shell.registry.ask .type world names) ∧
    ∀ name args conduct,
      (shell.executeLines world lines).Conducts shell.registry name args conduct ↔
      world.Conducts shell.registry name args conduct := by
  have halike := shell.executeLines_searchesAlike hcwd
  refine ⟨halike.findExecutable, halike.ask_type shell.registry, ?_⟩
  intro name args conduct
  exact halike.conducts_iff

/-- A file that a line puts before a program on the search path is no program, and a program that is
written over stays one. -/
theorem executeLines_findExecutable_shadowed :
    let program : Program := .exits "o" "" 0
    let world : World :=
      { World.bare with
        files := ⟨[(["a"], .directory), (["b"], .directory),
          (["b", "p"], .file ⟨"", some program⟩)]⟩
        env := [("PATH", "a:/b")] }
    let lines := ["echo x > a/p", "echo y > /b/p", "cd a", "p >> p", "cd .."]
    (Shell.executeLines ⟨.default, "$ "⟩ world lines).files.textAt ["a", "p"] = "x\no" ∧
      (Shell.executeLines ⟨.default, "$ "⟩ world lines).files.textAt ["b", "p"] = "y\n" ∧
      (Shell.executeLines ⟨.default, "$ "⟩ world lines).findExecutable "p" = some "/b/p" := by
  intro program world lines
  have hcwd : (Shell.executeLines ⟨.default, "$ "⟩ world lines).cwd = world.cwd := by decide +kernel
  obtain ⟨hfind, _, _⟩ := executeLines_findExecutable ⟨.default, "$ "⟩ world lines hcwd
  refine ⟨by decide +kernel, by decide +kernel, ?_⟩
  rw [hfind]
  decide +kernel

end Shell

end LineShell
