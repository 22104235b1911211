import LineShell.Proofs.Command.External
import LineShell.Proofs.Command.Rendering
import LineShell.Proofs.Shell.Frame
import LineShell.Proofs.World.Unchanged

/-!
# Words arrive as they are

A word between double quotes reaches the place it is meant for with all its characters, whatever
they are. The program of a line is started with one argument for each word, and `echo` puts the
words with a space between them on standard output or into a file. The name of the command may also
stand bare.
-/

namespace LineShell

/-! ### Bare names -/

namespace Command

variable {command : Command}

/-- A line that says what the command is, with its name written in a way of its own. -/
def renderAs (command : Command) (name : String) : String :=
  " ".intercalate (name :: command.args.map Text.enquote) ++
    match command.redirect with
    | none => ""
    | some redirect => " " ++ redirect.operator ++ " " ++ Text.enquote redirect.path

theorem renderAs_enquote (command : Command) :
    command.renderAs (Text.enquote command.name) = command.render :=
  rfl

theorem renderAs_eq_append (command : Command) :
    ∃ rest, ∀ name, command.renderAs name = name ++ rest := by
  obtain ⟨own, args, redirect⟩ := command
  cases args with
  | nil => exact ⟨_, fun name => by rw [renderAs, List.map_nil, String.intercalate_singleton]⟩
  | cons arg args =>
      exact ⟨_, fun name => by
        rw [renderAs, List.map_cons, String.intercalate_cons_cons, String.append_assoc,
          String.append_assoc]⟩

/-- A plain name is read the same with and without quotes. -/
theorem tokenize_renderAs (hplain : ∀ c ∈ command.name.toList, Text.IsPlain c) :
    tokenize (command.renderAs command.name) = tokenize command.render := by
  obtain ⟨rest, hrest⟩ := command.renderAs_eq_append
  rw [← renderAs_enquote, hrest, hrest, tokenize, tokenize, String.toList_append,
    String.toList_append, Scan.start, Scan.run_plain [] [] hplain, Scan.run_enquote]

theorem ofLine_renderAs (hexpressible : command.Expressible)
    (hplain : ∀ c ∈ command.name.toList, Text.IsPlain c) {name : String}
    (hname : name ∈ [command.name, Text.enquote command.name]) :
    ofLine (command.renderAs name) = .ok (some command) := by
  have hquoted := ofLine_render_of_expressible hexpressible
  simp only [List.mem_cons, List.not_mem_nil, or_false] at hname
  rcases hname with rfl | rfl
  · rw [ofLine, tokenize_renderAs hplain]
    exact hquoted
  · exact hquoted

/-- The file that a redirect puts on a stream. -/
def sinkOn (stream : Descriptor) (command : Command) : Option String :=
  match command.redirect with
  | none => none
  | some redirect => if redirect.descriptor = stream then some redirect.path else none

end Command

namespace World

variable {world after : World} {registry : Registry} {command : Command}

/-! ### Programs -/

theorem dispatch_passed (world : World) (hname : command.name ∉ specialNames)
    (hregistry : registry.get? command.name = none)
    (hregular : ∀ redirect, command.redirect = some redirect →
      ∃ path, world.DenotesFile redirect.path path) :
    ∃ after file, world.dispatch registry command =
        (.ok (.status (externalStatus (world.externalResult command.name command.args
          (world.target? command.redirect)))), after) ∧
      Shows (world.passedEvents command file) world after ∧
      file.map Handle.name = command.redirect.map Redirect.path := by
  obtain ⟨name, args, redirect⟩ := command
  cases redirect with
  | none =>
      obtain ⟨after, hdispatch, hshows, _⟩ := dispatch_external_plain world args hname hregistry
      exact ⟨after, none, hdispatch, hshows, rfl⟩
  | some redirect =>
      obtain ⟨path, hfile⟩ := hregular redirect rfl
      obtain ⟨after, hdispatch, hshows, _⟩ :=
        dispatch_external_redirected world args hname hregistry hfile
      have htarget : world.target? (some redirect) = some path := by
        rw [target?, Option.bind_some, hfile.1.2]
        rfl
      exact ⟨after, _, htarget ▸ hdispatch, hshows, rfl⟩

theorem map_name_fileOn {file : Option Handle}
    (hfile : file.map Handle.name = command.redirect.map Redirect.path) (stream : Descriptor) :
    (fileOn stream command.selected file).map Handle.name = command.sinkOn stream := by
  obtain ⟨name, args, redirect⟩ := command
  cases redirect with
  | none =>
      obtain rfl : file = none := by simpa using hfile
      simp [Command.sinkOn]
  | some redirect =>
      rw [Command.selected_some, Command.sinkOn]
      by_cases hstream : redirect.descriptor = stream
      · subst hstream
        simp [fileOn_self, hfile]
      · simp [fileOn_of_ne (Ne.symm hstream), hstream]

theorem externalStatus_of_exits {name executable out err : String} {args : List String}
    {target : Option Path} {code : Int} (hfind : world.findExecutable name = some executable)
    (hnul : (name :: args).any hasNul = false)
    (hending : world.ending? executable target = some (.exits out err code)) :
    externalStatus (world.externalResult name args target) = code := by
  rw [externalResult_of_some hfind, startResult_eq_ok_iff.mpr ⟨hnul, out, err, hending⟩]
  rfl

theorem externalStatus_of_not_exits {name executable : String} {args : List String}
    {target : Option Path} (hfind : world.findExecutable name = some executable)
    (hending : ∀ out err code, world.ending? executable target ≠ some (.exits out err code)) :
    externalStatus (world.externalResult name args target) = 126 := by
  rw [externalResult_of_some hfind]
  cases hstart : world.startResult (name :: args) executable target with
  | error failure => rfl
  | ok code =>
      obtain ⟨_, out, err, hexits⟩ := startResult_eq_ok_iff.mp hstart
      exact absurd hexits (hending out err code)

/-! ### `echo` -/

theorem execute_of_deliver {builtin : Builtin} {text : String}
    (hname : command.name ∉ specialNames) (hbuiltin : registry.get? command.name = some builtin)
    (hanswer : registry.ask builtin (world.debug .execution (command.note "builtin "))
      command.args = .ok text)
    (hdeliver : (world.debug .execution (command.note "builtin ")).deliver text command.redirect =
      (.ok (), after)) :
    world.execute registry command = (.status 0, after) := by
  obtain ⟨hexit, hcd⟩ := not_mem_specialNames_iff.mp hname
  have hattempt : world.attempt registry command = (.ok 0, after) := by
    rw [attempt_of_answer world hcd hbuiltin hanswer, hdeliver]
    rfl
  rw [execute, dispatch_of_ok hexit (by rw [hattempt]), hattempt, settle]

theorem execute_echo (world : World) (words : List String) :
    ∃ after, world.execute .default ⟨"echo", words, none⟩ = (.status 0, after) ∧
      Unchanged [.wrote .shell .stdout (" ".intercalate words ++ "\n")] world after := by
  have hname : "echo" ∉ specialNames := by decide
  refine ⟨_, execute_of_deliver hname rfl rfl rfl, ?_⟩
  exact (unchanged_log world _).trans (unchanged_printLine _ .stdout _)

theorem execute_echo_redirected {spec : String} {path : Path}
    (hfile : world.DenotesFile spec path) (words : List String) (append : Bool) :
    ∃ after, world.execute .default ⟨"echo", words, some ⟨.stdout, spec, append⟩⟩ =
      (.status 0, after) ∧ Stores path append (" ".intercalate words ++ "\n") world after := by
  have hname : "echo" ∉ specialNames := by decide
  have hnoted := unchanged_log world
    ⟨.debug, .execution, Command.note ⟨"echo", words, some ⟨.stdout, spec, append⟩⟩ "builtin "⟩
  obtain ⟨after, hwrite, hstores⟩ :=
    writeOutput_stores (hnoted.alike.denotesFile_iff.mpr hfile) (" ".intercalate words ++ "\n")
      append
  exact ⟨after, execute_of_deliver hname rfl rfl hwrite, hnoted.trans_stores hstores⟩

end World

namespace Shell

theorem executeLine_eq_execute (shell : Shell) (world : World) {line : String} {command : Command}
    (hparse : Command.ofLine line = .ok (some command)) :
    ∃ noted, World.Unchanged [] world noted ∧
      shell.executeLine world line = noted.execute shell.registry command :=
  ⟨dispatching world line command, (World.unchanged_log world _).trans (World.unchanged_log _ _),
    shell.executeLine_of_command world hparse⟩

/-- **A program gets the words of its line.** The line of a command that nobody else carries out
makes one start, of the executable that is found for its name, with one argument for each word and
with the target of the redirect on the stream that it selects. The status is the exit code, or 126
if the start fails. -/
theorem executeLine_render_starts (shell : Shell) (world : World) (command : Command)
    (executable : String) (hexpressible : command.Expressible)
    (hname : command.name ∉ specialNames) (hregistry : shell.registry.get? command.name = none)
    (hnul : ∀ word ∈ command.words, hasNul word = false)
    (hregular : ∀ redirect, command.redirect = some redirect →
      ∃ path, world.DenotesFile redirect.path path)
    (hfind : world.findExecutable command.name = some executable) :
    ∃ code after, shell.executeLine world command.render = (.status code, after) ∧
      after.spawns = world.spawns ++
        [⟨command.words, executable, command.sinkOn .stdout, command.sinkOn .stderr⟩] ∧
      (∀ out err exit, world.ending? executable (world.target? command.redirect) =
        some (.exits out err exit) → code = exit) ∧
      ((∀ out err exit, world.ending? executable (world.target? command.redirect) ≠
        some (.exits out err exit)) → code = 126) := by
  obtain ⟨noted, hnoted, hline⟩ :=
    shell.executeLine_eq_execute world (Command.ofLine_render_of_expressible hexpressible)
  have hfiles : ∀ redirect, command.redirect = some redirect →
      ∃ path, noted.DenotesFile redirect.path path := by
    intro redirect hredirect
    obtain ⟨path, hfile⟩ := hregular redirect hredirect
    exact ⟨path, hnoted.alike.denotesFile_iff.mpr hfile⟩
  obtain ⟨after, file, hdispatch, hshows, hfile⟩ :=
    World.dispatch_passed noted hname hregistry hfiles
  have hfound : noted.findExecutable command.name = some executable :=
    (hnoted.alike.searchesAlike.findExecutable command.name).trans hfind
  have hending : noted.ending? executable (noted.target? command.redirect) =
      world.ending? executable (world.target? command.redirect) := by
    rw [hnoted.alike.searchesAlike.ending?, hnoted.alike.searchesAlike.target?]
  have hwords : (command.name :: command.args).any hasNul = false := by
    simpa [Command.words] using hnul
  refine ⟨_, after, by rw [hline, World.execute, hdispatch, World.settle], ?_, ?_, ?_⟩
  · rw [hshows.spawns, World.spawnsIn_passedEvents, World.map_name_fileOn hfile,
      World.map_name_fileOn hfile, hnoted.performs.spawns]
    simp [World.started?, hwords, hfound, World.spawnsIn, Command.words]
  · intro out err exit hexits
    exact World.externalStatus_of_exits hfound hwords (hending.trans hexits)
  · intro hrefuses
    exact World.externalStatus_of_not_exits hfound fun out err exit =>
      hending.symm ▸ hrefuses out err exit

theorem executeLine_starts_odd_words :
    let program : Program := .exits "o" "e" 3
    let world : World :=
      { World.bare with
        files := ⟨[(["bin"], .directory), (["bin", "p"], .file ⟨"", some program⟩)]⟩
        env := [("PATH", "/none:/bin")] }
    let command : Command :=
      ⟨"p", ["1", "a  b", ">>", "\"\\'", "$x\n", "2"], some ⟨.stderr, "my log", true⟩⟩
    ∃ after, Shell.executeLine ⟨.default, "$ "⟩ world command.render = (.status 3, after) ∧
      after.spawns =
        [⟨["p", "1", "a  b", ">>", "\"\\'", "$x\n", "2"], "/bin/p", none, some "my log"⟩] := by
  intro program world command
  have hfile : world.DenotesFile "my log" ["my log"] := ⟨by decide, .inl rfl⟩
  obtain ⟨code, after, hexecute, hspawns, hexits, _⟩ :=
    executeLine_render_starts ⟨.default, "$ "⟩ world command "/bin/p"
      ⟨by decide, by decide, by simp [command], by simp [command]⟩ (by decide) rfl (by decide) (by
        rintro redirect ⟨⟩
        exact ⟨_, hfile⟩) (by decide +kernel)
  obtain rfl := hexits "o" "e" 3 (by decide +kernel)
  exact ⟨after, hexecute, hspawns⟩

/-- **Text written with `echo` is preserved.** The line of `echo` and any words, its name quoted or
bare, has status 0 and puts the words with a space between them and a newline behind them on
standard output. With a redirect to a regular file it puts them into the file, behind the old text
or in its place, and shows nothing. Log records aside, nothing else happens. -/
theorem executeLine_echo (prompt : String) (world : World) (words : List String)
    (hwords : ∀ word ∈ words, word ≠ "") (name : String)
    (hname : name ∈ ["echo", Text.enquote "echo"]) :
    (∃ after,
      Shell.executeLine ⟨.default, prompt⟩ world
        (Command.renderAs ⟨"echo", words, none⟩ name) = (.status 0, after) ∧
      World.Unchanged [.wrote .shell .stdout (" ".intercalate words ++ "\n")] world after ∧
      after.out = world.out ++ (" ".intercalate words ++ "\n") ∧
      after.shown .stderr = world.shown .stderr) ∧
    ∀ spec path append, spec ≠ "" → ("echo" :: words).getLast? ≠ some "2" →
      world.DenotesFile spec path →
      ∃ after,
        Shell.executeLine ⟨.default, prompt⟩ world
          (Command.renderAs ⟨"echo", words, some ⟨.stdout, spec, append⟩⟩ name) =
            (.status 0, after) ∧
        World.Stores path append (" ".intercalate words ++ "\n") world after ∧
        after.out = world.out ∧ after.shown .stderr = world.shown .stderr := by
  have hplain : ∀ c ∈ "echo".toList, Text.IsPlain c := by simp [Text.IsPlain]
  constructor
  · have hexpressible : Command.Expressible ⟨"echo", words, none⟩ :=
      ⟨by simp, hwords, by simp, by simp⟩
    obtain ⟨noted, hnoted, hline⟩ := executeLine_eq_execute ⟨.default, prompt⟩ world
      (Command.ofLine_renderAs hexpressible hplain hname)
    obtain ⟨after, hexecute, hafter⟩ := noted.execute_echo words
    have hunchanged := hnoted.trans hafter
    refine ⟨after, hline.trans hexecute, hunchanged, hunchanged.performs.out.trans ?_,
      (hunchanged.performs.shown .stderr).trans ?_⟩ <;> simp [World.written]
  · intro spec path append hspec hlast hfile
    have hexpressible : Command.Expressible ⟨"echo", words, some ⟨.stdout, spec, append⟩⟩ :=
      ⟨by simp, hwords, by simpa using hspec, by simpa [Command.words] using hlast⟩
    obtain ⟨noted, hnoted, hline⟩ := executeLine_eq_execute ⟨.default, prompt⟩ world
      (Command.ofLine_renderAs hexpressible hplain hname)
    obtain ⟨after, hexecute, hafter⟩ :=
      World.execute_echo_redirected (hnoted.alike.denotesFile_iff.mpr hfile) words append
    have hstores := hnoted.trans_stores hafter
    refine ⟨after, hline.trans hexecute, hstores, hstores.performs.out.trans ?_,
      (hstores.performs.shown .stderr).trans ?_⟩ <;> simp [World.written]

theorem executeLine_echo_odd_words :
    let words := ["1", "-n", "a\"b\\", ">>", "two\nlines", "  "]
    let world : World := { World.bare with files := ⟨[(["log"], .file ⟨"old\n", none⟩)]⟩ }
    ∃ after, Shell.executeLine ⟨.default, "$ "⟩ world
        (Command.renderAs ⟨"echo", words, some ⟨.stdout, "./log", true⟩⟩ "echo") =
          (.status 0, after) ∧
      after.files.textAt ["log"] = "old\n1 -n a\"b\\ >> two\nlines   \n" ∧ after.out = "" := by
  intro words world
  have hfile : world.DenotesFile "./log" ["log"] := ⟨by decide, FileSystem.isRegular_of_find? rfl⟩
  obtain ⟨_, hredirected⟩ := executeLine_echo "$ " world words (by decide) "echo" (by decide)
  obtain ⟨after, hexecute, hstores, hout, _⟩ :=
    hredirected "./log" ["log"] true (by decide) (by decide) hfile
  refine ⟨after, hexecute, ?_, hout⟩
  rw [FileSystem.textAt_of_find? (hstores.target (by decide))]
  decide +kernel

end Shell

end LineShell
