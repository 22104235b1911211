import LineShell.FileSystem.Walk
import LineShell.FileSystem.Write
import Mathlib.Tactic.SplitIfs

/-!
# What a walk and a search see

A walk looks at the kinds of nodes and never at what a file holds. A search for programs looks at
directories and programs alone. So no walk notices that a file is written, and no search notices
that a file is created, truncated or written.
-/

namespace LineShell

/-- A node without what a file holds. -/
def Node.outline : Node → Node
  | .file held => .file ⟨"", held.program⟩
  | .directory => .directory
  | .sink => .sink
  | .full => .full

/-- Whether a node leads on, and its program. -/
def Node.sight : Node → Bool × Option Program
  | .directory => (true, none)
  | .file held => (false, held.program)
  | .sink | .full => (false, none)

theorem Node.sight_outline (node : Node) : node.outline.sight = node.sight := by
  cases node <;> rfl

namespace FileSystem

variable {files other : FileSystem} {path : Path}

def outline (files : FileSystem) (path : Path) : Option Node := (files.find? path).map Node.outline

def sight (files : FileSystem) (path : Path) : Bool × Option Program :=
  ((files.find? path).map Node.sight).getD (false, none)

theorem sight_eq_of_outline_eq (houtline : files.outline = other.outline) :
    files.sight = other.sight := by
  have hsight : ∀ files : FileSystem, ∀ path,
      files.sight path = ((files.outline path).map Node.sight).getD (false, none) := by
    intro files path
    simp [sight, outline, Function.comp_def, Node.sight_outline]
  funext path
  calc
    files.sight path = ((files.outline path).map Node.sight).getD (false, none) := hsight files path
    _ = ((other.outline path).map Node.sight).getD (false, none) := by rw [houtline]
    _ = other.sight path := (hsight other path).symm

/-! ### Replacing a node -/

theorem ne_nil_of_find?_ne_directory (files : FileSystem)
    (hfind : files.find? path ≠ some .directory) : path ≠ [] := by
  intro hpath
  exact hfind (by simp [hpath, find?])

theorem outline_set_of_outline_eq {old node : Node} (hfind : files.find? path = some old)
    (hdirectory : old ≠ .directory) (hnode : node.outline = old.outline) :
    (files.set path node).outline = files.outline := by
  have hpath : path ≠ [] := ne_nil_of_find?_ne_directory files (by simpa [hfind] using hdirectory)
  funext other
  rw [outline, find?_set hpath, outline]
  by_cases hother : other = path
  · subst hother
    simp [hfind, hnode]
  · simp [hother]

/-! ### Walking -/

theorem enter_eq (files : FileSystem) (place : Place) (name : String) :
    files.enter place name =
      if name = "" ∨ name = "." then .ok place
      else if name = ".." then .ok place.parent
      else if place.lost > 0 then .error .noEntry
      else if name.utf8ByteSize > maxNameBytes then .error .nameTooLong
      else match files.outline (place.path ++ [name]) with
        | none => .error .noEntry
        | some .directory => .ok ⟨place.path ++ [name], 0⟩
        | some _ => .error .notDirectory := by
  unfold enter child? outline
  split_ifs <;> try rfl
  rcases files.find? (place.path ++ [name]) with _ | node
  · rfl
  · cases node <;> rfl

theorem toOption_enter (files : FileSystem) (place : Place) (name : String) :
    (files.enter place name).toOption =
      if name = "" ∨ name = "." then some place
      else if name = ".." then some place.parent
      else if place.lost > 0 then none
      else if name.utf8ByteSize > maxNameBytes then none
      else if (files.sight (place.path ++ [name])).1 then some ⟨place.path ++ [name], 0⟩
        else none := by
  unfold enter child? sight
  rcases files.find? (place.path ++ [name]) with _ | (_ | _ | _ | _) <;>
    (split_ifs <;> first | rfl | contradiction)

theorem descend_congr (houtline : files.outline = other.outline) (place : Place)
    (names : List String) : files.descend place names = other.descend place names := by
  induction names generalizing place with
  | nil => rfl
  | cons name names ih =>
      have henter : files.enter place name = other.enter place name := by
        rw [enter_eq, enter_eq, houtline]
      rw [descend, descend, henter]
      simp only [ih]

theorem toOption_descend_cons (files : FileSystem) (place : Place) (name : String)
    (names : List String) :
    (files.descend place (name :: names)).toOption =
      (files.enter place name).toOption.bind fun next => (files.descend next names).toOption := by
  rw [descend]
  cases files.enter place name with
  | error error => rfl
  | ok next => rfl

theorem toOption_descend_congr (hsight : files.sight = other.sight) (place : Place)
    (names : List String) :
    (files.descend place names).toOption = (other.descend place names).toOption := by
  induction names generalizing place with
  | nil => rfl
  | cons name names ih =>
      have henter : (files.enter place name).toOption = (other.enter place name).toOption := by
        rw [toOption_enter, toOption_enter, hsight]
      rw [toOption_descend_cons, toOption_descend_cons, henter]
      simp only [ih]

/-! ### Targets and programs -/

theorem targetAt_eq (files : FileSystem) (cwd : Place) (text : String) :
    files.targetAt cwd text =
      match readPath cwd text with
      | .error error => .error error
      | .ok (start, names) =>
        match (dropTrailing names).getLast? with
        | none => .error .isDirectory
        | some name =>
          match files.descend start (dropTrailing names).dropLast with
          | .error error => .error error
          | .ok place =>
            if name = "." ∨ name = ".." ∨ names.getLast? = some "" then .error .isDirectory
            else if place.lost > 0 then .error .noEntry
            else if name.utf8ByteSize > maxNameBytes then .error .nameTooLong
            else match files.outline (place.path ++ [name]) with
              | some .directory => .error .isDirectory
              | _ => .ok (place.path ++ [name]) := by
  unfold targetAt
  rcases readPath cwd text with error | ⟨start, names⟩
  · rfl
  · dsimp only
    rcases (dropTrailing names).getLast? with _ | name
    · rfl
    · dsimp only
      rcases files.descend start (dropTrailing names).dropLast with error | place
      · rfl
      · dsimp only [child?, outline]
        rcases files.find? (place.path ++ [name]) with _ | (_ | _ | _ | _) <;>
          (split_ifs <;> rfl)

theorem targetAt_congr (houtline : files.outline = other.outline) (cwd : Place) (text : String) :
    files.targetAt cwd text = other.targetAt cwd text := by
  rw [targetAt_eq, targetAt_eq]
  simp only [descend_congr houtline, houtline]

theorem toOption_targetAt (files : FileSystem) (cwd : Place) (text : String) :
    (files.targetAt cwd text).toOption =
      (readPath cwd text).toOption.bind fun walk =>
        (dropTrailing walk.2).getLast?.bind fun name =>
          (files.descend walk.1 (dropTrailing walk.2).dropLast).toOption.bind fun place =>
            if name = "." ∨ name = ".." ∨ walk.2.getLast? = some "" then none
            else if place.lost > 0 then none
            else if name.utf8ByteSize > maxNameBytes then none
            else if (files.sight (place.path ++ [name])).1 then none
            else some (place.path ++ [name]) := by
  unfold targetAt child? sight
  rcases readPath cwd text with error | ⟨start, names⟩
  · rfl
  · dsimp only
    rcases hname : (dropTrailing names).getLast? with _ | name
    · simp [Except.toOption, hname]
    · rcases hplace : files.descend start (dropTrailing names).dropLast with error | place
      · simp [Except.toOption, hname, hplace]
      · simp only [Except.toOption, Option.bind_some, hname, hplace]
        rcases files.find? (place.path ++ [name]) with _ | (_ | _ | _ | _) <;>
          (split_ifs <;> first | rfl | contradiction)

/-- Creating and writing files opens no new targets and closes none. -/
theorem toOption_targetAt_congr (hsight : files.sight = other.sight) (cwd : Place) (text : String) :
    (files.targetAt cwd text).toOption = (other.targetAt cwd text).toOption := by
  rw [toOption_targetAt, toOption_targetAt]
  simp only [toOption_descend_congr hsight, hsight]

theorem program_fileAt? (files : FileSystem) (cwd : Place) (text : String) :
    (files.fileAt? cwd text).bind File.program =
      (readPath cwd text).toOption.bind fun walk =>
        walk.2.getLast?.bind fun name =>
          (files.descend walk.1 walk.2.dropLast).toOption.bind fun place =>
            if name = "" ∨ name = "." ∨ name = ".." then none
            else if place.lost > 0 then none
            else if name.utf8ByteSize > maxNameBytes then none
            else (files.sight (place.path ++ [name])).2 := by
  unfold fileAt?
  rcases readPath cwd text with error | ⟨start, names⟩
  · rfl
  · dsimp only
    rcases hname : names.getLast? with _ | name
    · simp [Except.toOption, hname]
    · rcases hplace : files.descend start names.dropLast with error | place
      · simp [Except.toOption, hname, hplace]
      · simp only [Except.toOption, Option.bind_some, hname, hplace, child?, sight]
        rcases files.find? (place.path ++ [name]) with _ | (_ | _ | _ | _) <;>
          (split_ifs <;> rfl)

theorem program_fileAt?_congr (hsight : files.sight = other.sight) (cwd : Place) (text : String) :
    (files.fileAt? cwd text).bind File.program = (other.fileAt? cwd text).bind File.program := by
  rw [program_fileAt?, program_fileAt?]
  simp only [toOption_descend_congr hsight, hsight]

end FileSystem

end LineShell
