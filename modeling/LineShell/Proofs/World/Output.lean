import LineShell.Proofs.World.Plan

/-!
# What reaches a target

A redirect to a regular file, or to one that can be created, always succeeds: the target then holds
its old text, or nothing if it is truncated, followed by what was written. Where the target cannot
be opened, nothing is done but to record that.
-/

namespace LineShell

namespace World

variable {world before after : World} {touched : Path → Bool → Prop} {spec : String} {path : Path}
  {redirect : Redirect} {failure : Failure}

/-- A path text denotes a regular file, or one that can be created. -/
def DenotesFile (world : World) (spec : String) (path : Path) : Prop :=
  world.Denotes spec path ∧ world.files.IsRegular path

theorem Alike.denotesFile_iff (halike : Alike before after) :
    after.DenotesFile spec path ↔ before.DenotesFile spec path := by
  have hbecomes := FileSystem.becomes_of_outline_eq halike.outline path
  rw [DenotesFile, DenotesFile, halike.searchesAlike.denotes_iff,
    FileSystem.isRegular_iff_of_becomes hbecomes]

theorem TouchesOnly.denotesFile_iff (htouches : TouchesOnly touched before after) :
    after.DenotesFile spec path ↔ before.DenotesFile spec path := by
  rw [DenotesFile, DenotesFile, htouches.searchesAlike.denotes_iff,
    FileSystem.isRegular_iff_of_becomes (htouches.becomes path)]

/-! ### Opening -/

theorem openTarget_eq_ok_iff {append : Bool} {handle : Handle} :
    world.openTarget spec append = .ok (handle, after) ↔
      world.Denotes spec handle.path ∧ handle = ⟨spec, handle.path, append⟩ ∧
        after = world.take (.openFile handle.path append) := by
  rw [openTarget_eq, ← targetOf_eq_ok_iff]
  cases world.targetOf spec with
  | error failure => simp [Except.map]
  | ok target =>
      simp only [Except.map, Except.ok.injEq, Prod.mk.injEq]
      constructor
      · rintro ⟨rfl, rfl⟩
        exact ⟨rfl, rfl, rfl⟩
      · rintro ⟨htarget, hhandle, rfl⟩
        rw [htarget]
        exact ⟨hhandle.symm, rfl⟩

theorem openTarget_eq_error_iff {append : Bool} :
    world.openTarget spec append = .error failure ↔ world.targetOf spec = .error failure := by
  rw [openTarget_eq]
  cases world.targetOf spec <;> simp [Except.map]

theorem openPlan_of_denotes (hdenotes : world.Denotes redirect.path path) :
    world.openPlan (some redirect) =
      ⟨.ok (some ⟨redirect.path, path, redirect.append⟩), [.openFile path redirect.append]⟩ := by
  simp only [openPlan, targetOf_eq_ok_iff.mpr hdenotes]

theorem openPlan_of_blocked (hblocked : world.targetOf redirect.path = .error failure) :
    world.openPlan (some redirect) =
      ⟨.error (.write redirect.path failure.reason), [.log ⟨.warning, .output,
        "cannot open redirect target " ++ redirect.path ++ ": " ++ failure.message⟩]⟩ := by
  simp only [openPlan, hblocked]

/-! ### Writing -/

theorem writePlan_of_blocked (hblocked : world.targetOf spec = .error failure) (text : String)
    (append : Bool) :
    world.writePlan spec text append =
      ⟨.error (.write spec failure.reason),
        [.log ⟨.warning, .output, "cannot write to " ++ spec ++ ": " ++ failure.message⟩]⟩ := by
  simp only [writePlan, hblocked]

theorem writePlan_of_denotesFile (hfile : world.DenotesFile spec path) (text : String)
    (append : Bool) :
    world.writePlan spec text append =
      ⟨.ok (), [.openFile path append, .write path append text]⟩ := by
  have hfull : world.files.outline path ≠ some .full := by
    rcases hfile.2 with hnone | ⟨held, hheld⟩
    · simp [FileSystem.outline, hnone]
    · simp [FileSystem.outline, hheld, Node.outline]
  simp [writePlan, targetOf_eq_ok_iff.mpr hfile.1, hfull]

/-- The first text written to an opened file stands behind what the file kept. -/
theorem takeAll_openFile_write (hregular : world.files.IsRegular path) (append : Bool)
    (text : String) :
    world.takeAll [.openFile path append, .write path append text] =
      { world with
        files := world.files.store path
          ((if append then world.files.textAt path else "") ++ text) } := by
  simp only [takeAll_cons, takeAll_nil, take]
  rw [FileSystem.written_openFile hregular]

theorem writeOutput_of_denotesFile (hfile : world.DenotesFile spec path) (text : String)
    (append : Bool) :
    world.writeOutput spec text append =
      (.ok (), { world with
        files := world.files.store path
          ((if append then world.files.textAt path else "") ++ text) }) := by
  rw [writeOutput_eq, writePlan_of_denotesFile hfile, follow, takeAll_openFile_write hfile.2]

end World

end LineShell
