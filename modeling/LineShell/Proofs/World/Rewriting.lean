import LineShell.Proofs.World.Frame

/-!
# Another text in a file

Two worlds may differ in the text of one file alone. Log records keep them so, and truncating the
file forgets the difference. So whatever truncates a file first ends in the same world for any text
the file held.
-/

namespace LineShell

namespace FileSystem

variable {files : FileSystem} {path : Path}

/-- The file at a path holds another text. Without a file nothing changes. -/
def rewrite (files : FileSystem) (path : Path) (text : String) : FileSystem :=
  match files.find? path with
  | some (.file held) => files.set path (.file { held with content := text })
  | _ => files

theorem rewrite_of_file {held : File} (hfind : files.find? path = some (.file held))
    (text : String) : files.rewrite path text = files.store path text := by
  simp [rewrite, hfind, store, sight, Node.sight]

theorem rewrite_of_not_file (hfind : ∀ held, files.find? path ≠ some (.file held)) (text : String) :
    files.rewrite path text = files := by
  unfold rewrite
  split
  · rename_i held hheld
    exact absurd hheld (hfind held)
  · rfl

theorem outline_rewrite (files : FileSystem) (path : Path) (text : String) :
    (files.rewrite path text).outline = files.outline := by
  unfold rewrite
  split
  · rename_i held hfind
    exact outline_set_of_outline_eq hfind (by simp) rfl
  · rfl

/-- Truncation forgets what a file held. -/
theorem openFile_rewrite (files : FileSystem) (path : Path) (text : String) :
    (files.rewrite path text).openFile path false = files.openFile path false := by
  by_cases hfile : ∃ held, files.find? path = some (.file held)
  · obtain ⟨held, hfind⟩ := hfile
    have hregular := isRegular_of_find? hfind
    have hstored : (files.store path text).IsRegular path :=
      .inr ⟨_, by simp [find?_store hregular]; rfl⟩
    rw [rewrite_of_file hfind, openFile_truncate hstored, store_store hregular,
      openFile_truncate hregular]
  · rw [rewrite_of_not_file (not_exists.mp hfile)]

/-- What is appended to some file leaves the texts of one file as far apart as they were. -/
theorem written_append_rewrite (files : FileSystem) (path logPath : Path) (text line : String) :
    ∃ other, (files.rewrite path text).written logPath true line =
      (files.written logPath true line).rewrite path other := by
  by_cases hfile : ∃ held, files.find? path = some (.file held)
  case neg =>
    have hfind := not_exists.mp hfile
    have hwritten : ∀ held,
        (files.written logPath true line).find? path ≠ some (.file held) := by
      by_cases hpath : path = logPath
      · subst hpath
        rwa [written_of_not_file hfind]
      · rwa [find?_written_of_ne hpath]
    exact ⟨text, by rw [rewrite_of_not_file hfind, rewrite_of_not_file hwritten]⟩
  obtain ⟨held, hfind⟩ := hfile
  have hregular := isRegular_of_find? hfind
  by_cases hpath : path = logPath
  · subst hpath
    refine ⟨text ++ line, ?_⟩
    have hstored := find?_store hregular text path
    have hlogged := find?_store hregular (held.content ++ line) path
    rw [if_pos rfl] at hstored hlogged
    rw [rewrite_of_file hfind, written_of_file hstored, written_of_file hfind, overwrite,
      overwrite, if_pos rfl, if_pos rfl, rewrite_of_file hlogged, store_store hregular,
      store_store hregular]
  · refine ⟨text, ?_⟩
    have hkept : (files.store path text).find? logPath = files.find? logPath := by
      rw [find?_store hregular, if_neg (Ne.symm hpath)]
    by_cases hlog : ∃ log, files.find? logPath = some (.file log)
    · obtain ⟨log, hlog⟩ := hlog
      have hlogRegular := isRegular_of_find? hlog
      have hafter : (files.store logPath (overwrite true line log.content)).find? path =
          some (.file held) := by
        rw [find?_store hlogRegular, if_neg hpath, hfind]
      rw [rewrite_of_file hfind, written_of_file (hkept.trans hlog), written_of_file hlog,
        rewrite_of_file hafter]
      exact store_comm (Ne.symm hpath) hregular hlogRegular (by simp [hfind]) text _
    · have hlog := not_exists.mp hlog
      rw [rewrite_of_file hfind, written_of_not_file (hkept ▸ hlog), written_of_not_file hlog,
        rewrite_of_file hfind]

end FileSystem

namespace World

variable {world : World} {path : Path} {steps first rest : List Step}

/-- The file at a path holds another text. Without a file nothing changes. -/
def rewrite (world : World) (path : Path) (text : String) : World :=
  { world with files := world.files.rewrite path text }

theorem alike_rewrite (world : World) (path : Path) (text : String) :
    Alike world (world.rewrite path text) :=
  ⟨rfl, rfl, world.files.outline_rewrite path text, rfl⟩

theorem log_rewrite (world : World) (path : Path) (text : String) (record : Record) :
    ∃ other, (world.rewrite path text).log record = (world.log record).rewrite path other := by
  have hkeep : ∃ other, world.logging.keep record (world.files.rewrite path text) =
      (world.logging.keep record world.files).rewrite path other := by
    cases world.logging with
    | file threshold logPath =>
        unfold Logging.keep
        dsimp only
        split
        · exact world.files.written_append_rewrite path logPath text record.line
        · exact ⟨text, rfl⟩
    | traceOnly | unset | stream threshold => exact ⟨text, rfl⟩
  obtain ⟨other, hother⟩ := hkeep
  refine ⟨other, ?_⟩
  rw [log_eq, log_eq]
  simp only [rewrite, hother]

theorem takeAll_rewrite_of_isIdle (world : World) (path : Path) (text : String)
    (hidle : ∀ step ∈ steps, step.IsIdle) :
    ∃ other, (world.rewrite path text).takeAll steps =
      (world.takeAll steps).rewrite path other := by
  induction steps generalizing world text with
  | nil => exact ⟨text, rfl⟩
  | cons step steps ih =>
      obtain ⟨hstep, hsteps⟩ := List.forall_mem_cons.mp hidle
      cases step with
      | emit event => exact ih (world.emit event) text hsteps
      | log record =>
          obtain ⟨between, hbetween⟩ := world.log_rewrite path text record
          rw [takeAll_cons, take, hbetween]
          exact ih (world.log record) between hsteps
      | openFile | write | move => exact False.elim hstep

/-- Steps that truncate a file before they touch any other end alike whatever the file held. -/
theorem takeAll_rewrite (world : World) (path : Path) (text : String)
    (hidle : ∀ step ∈ first, step.IsIdle) :
    (world.rewrite path text).takeAll (first ++ .openFile path false :: rest) =
      world.takeAll (first ++ .openFile path false :: rest) := by
  obtain ⟨other, hother⟩ := world.takeAll_rewrite_of_isIdle path text hidle
  have hopen : ((world.takeAll first).rewrite path other).take (.openFile path false) =
      (world.takeAll first).take (.openFile path false) := by
    simp only [take, rewrite, FileSystem.openFile_rewrite]
  rw [takeAll_append, hother, takeAll_cons, hopen, takeAll_append, takeAll_cons]

end World

end LineShell
