import LineShell.Proofs.World.Unchanged

/-!
# Two ways of writing to a file

A text is written through the opened target of a redirect, or to a path at once. Both ways fail to
open the same paths, with the same error, and change nothing then; in a regular file they leave the
same text. They differ where an open target refuses the text, as a device without room does: the
second way reports that as an error of writing, the first hands the failure on as it is.
-/

namespace LineShell

/-- The system's own text for a failure that comes from the system. -/
def Failure.systemText? : Failure → Option String
  | system error _ => some error.text
  | embeddedNul | other _ => none

/-- The user sees the system's text for a failure, or all that is known of it if there is none. -/
theorem Failure.reason_eq (failure : Failure) :
    failure.reason = failure.systemText?.getD failure.message := by
  cases failure <;> rfl

/-- How a text that does not reach the target of a redirect is reported: a target that cannot be
opened has been reported already. -/
def Redirect.reported (redirect : Redirect) : ShellError ⊕ Failure → ShellError
  | .inl error => error
  | .inr failure => .write redirect.path failure.reason

namespace World

variable {world : World} {redirect : Redirect} {failure : Failure} {path : Path}

/-- Writes a text through the target of a redirect, which is opened for it. Only a failure to open
the target is an error of the shell. -/
def writeThrough (world : World) (redirect : Redirect) (text : String) :
    Except (ShellError ⊕ Failure) Unit × World :=
  match world.openRedirect (some redirect) with
  | (.error error, world) => (.error (.inl error), world)
  | (.ok none, world) => (.ok (), world)
  | (.ok (some handle), world) =>
    match world.writeTo handle text with
    | .error failure => (.error (.inr failure), world)
    | .ok written => (.ok (), written)

theorem writeThrough_of_blocked (hblocked : world.targetOf redirect.path = .error failure)
    (text : String) :
    world.writeThrough redirect text = (.error (.inl (.write redirect.path failure.reason)),
      world.warn .output
        ("cannot open redirect target " ++ redirect.path ++ ": " ++ failure.message)) := by
  rw [writeThrough, openRedirect_eq, openPlan_of_blocked hblocked]
  rfl

theorem writeOutput_of_blocked (hblocked : world.targetOf redirect.path = .error failure)
    (text : String) :
    world.writeOutput redirect.path text redirect.append =
      (.error (.write redirect.path failure.reason),
        world.warn .output
          ("cannot write to " ++ redirect.path ++ ": " ++ failure.message)) := by
  rw [writeOutput_eq, writePlan_of_blocked hblocked]
  rfl

theorem writeThrough_of_denotesFile (hfile : world.DenotesFile redirect.path path)
    (text : String) :
    world.writeThrough redirect text = (.ok (), { world with
      files := world.files.store path
        ((if redirect.append then world.files.textAt path else "") ++ text) }) := by
  have hfull : (world.files.openFile path redirect.append).outline path ≠ some .full := by
    simp [FileSystem.outline, FileSystem.find?_openFile_self hfile.2, Node.outline]
  rw [← takeAll_openFile_write hfile.2, writeThrough, openRedirect_eq,
    openPlan_of_denotes hfile.1]
  simp [follow, writeTo_eq, take, hfull]

/-- Whatever the target is, the results of both ways are the same once a failure in writing is
reported. -/
theorem fst_writeOutput (world : World) (redirect : Redirect) (text : String) :
    (world.writeOutput redirect.path text redirect.append).1 =
      (world.writeThrough redirect text).1.mapError redirect.reported := by
  cases htarget : world.targetOf redirect.path with
  | error failure =>
      rw [writeOutput_of_blocked htarget, writeThrough_of_blocked htarget]
      rfl
  | ok path =>
      have hopen := openTarget_eq world redirect.path redirect.append
      rw [htarget] at hopen
      rw [writeOutput, writeThrough, openRedirect, hopen]
      dsimp only [Except.map]
      cases (world.take (.openFile path redirect.append)).writeTo _ text <;> rfl

/-- **Both ways of writing agree.** They have the same result once a failure in writing is reported.
If the target cannot be opened, both fail with one error, which tells the path and the reason, and
all that is left of them is one log record. If the target is a regular file, both end in one world:
the file holds the text behind its old text, or alone if it was truncated, and no other file has
changed. -/
theorem writeThrough_agrees (world : World) (redirect : Redirect) (text : String) :
    (world.writeOutput redirect.path text redirect.append).1 =
      (world.writeThrough redirect text).1.mapError redirect.reported ∧
    (∀ failure, world.openTarget redirect.path redirect.append = .error failure →
      ∃ error first second,
        world.writeThrough redirect text = (.error (.inl error), world.warn .output first) ∧
        world.writeOutput redirect.path text redirect.append =
          (.error error, world.warn .output second) ∧
        error.kind = .write ∧
        error.message = redirect.path ++ ": " ++ failure.systemText?.getD failure.message ∧
        Unchanged [] world (world.warn .output first) ∧
          Unchanged [] world (world.warn .output second)) ∧
    ∀ path, world.DenotesFile redirect.path path →
      ∃ files,
        world.writeThrough redirect text = (.ok (), { world with files := files }) ∧
        world.writeOutput redirect.path text redirect.append =
          (.ok (), { world with files := files }) ∧
        files.find? path =
          some (.file ⟨(if redirect.append then world.files.textAt path else "") ++ text,
          (world.files.sight path).2⟩) ∧
        ∀ elsewhere, elsewhere ≠ path → files.find? elsewhere = world.files.find? elsewhere := by
  refine ⟨world.fst_writeOutput redirect text, ?_, ?_⟩
  · intro failure hblocked
    have htarget := openTarget_eq_error_iff.mp hblocked
    refine ⟨.write redirect.path failure.reason, _, _, writeThrough_of_blocked htarget text,
      writeOutput_of_blocked htarget text, rfl, ?_, unchanged_log world _, unchanged_log world _⟩
    rw [ShellError.message, failure.reason_eq]
  · intro path hfile
    refine ⟨_, writeThrough_of_denotesFile hfile text,
      writeOutput_of_denotesFile hfile text redirect.append, ?_, ?_⟩
    · rw [FileSystem.find?_store hfile.2, if_pos rfl]
    · intro elsewhere hne
      rw [FileSystem.find?_store hfile.2, if_neg hne]

/-- A program is appended to by a roundabout path, and a path through it is refused. -/
theorem writeThrough_agrees_on_program :
    let program : Program := .exits "" "" 0
    let files : FileSystem := ⟨[(["d"], .directory), (["d", "p"], .file ⟨"old", some program⟩)]⟩
    let world : World := ⟨files, ⟨["d"], 0⟩, [], .traceOnly, []⟩
    (∃ after, world.writeThrough ⟨.stderr, "../d/./p", true⟩ "new\n" = (.ok (), after) ∧
      world.writeOutput "../d/./p" "new\n" true = (.ok (), after) ∧
      after.files.find? ["d", "p"] = some (.file ⟨"oldnew\n", some program⟩)) ∧
    ∃ error first second,
      world.writeThrough ⟨.stdout, "p/f", false⟩ "new\n" =
        (.error (.inl error), world.warn .output first) ∧
      world.writeOutput "p/f" "new\n" false = (.error error, world.warn .output second) ∧
      error.message = "p/f: Not a directory" ∧
      (world.warn .output first).files.find? ["d", "p"] = files.find? ["d", "p"] := by
  intro program files world
  have hfile : world.DenotesFile "../d/./p" ["d", "p"] := ⟨by decide, .inr ⟨_, rfl⟩⟩
  have hblocked : world.openTarget "p/f" false =
      .error (.system .notDirectory (some "p/f")) := by rfl
  obtain ⟨_, _, hregular⟩ := writeThrough_agrees world ⟨.stderr, "../d/./p", true⟩ "new\n"
  obtain ⟨_, hrefused, _⟩ := writeThrough_agrees world ⟨.stdout, "p/f", false⟩ "new\n"
  obtain ⟨_, hthrough, houtput, htext, _⟩ := hregular ["d", "p"] hfile
  obtain ⟨error, first, second, hfails, hfailsToo, _, hmessage, hunchanged, _⟩ :=
    hrefused _ hblocked
  refine ⟨⟨_, hthrough, houtput, htext⟩, error, first, second, hfails, hfailsToo, hmessage, ?_⟩
  exact hunchanged.find? ["d", "p"] (by decide)

end World

end LineShell
