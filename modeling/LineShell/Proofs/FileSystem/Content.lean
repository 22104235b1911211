import LineShell.Proofs.FileSystem.Outline

/-!
# What files hold

Opening a file for writing and writing to it give one file a new text. Nothing else in a file system
changes: what becomes of a node is that it stays, that a file without a program appears where
nothing was, or that a file gets another text (`Node.Becomes`).
-/

namespace LineShell

/-- What may become of the node at a path. -/
inductive Node.Becomes : Option Node → Option Node → Prop
  | kept (node : Option Node) : Becomes node node
  | created (text : String) : Becomes none (some (.file ⟨text, none⟩))
  | rewritten (old new : String) (program : Option Program) :
      Becomes (some (.file ⟨old, program⟩)) (some (.file ⟨new, program⟩))

theorem Node.Becomes.trans {before between after : Option Node}
    (hfirst : Node.Becomes before between) (hsecond : Node.Becomes between after) :
    Node.Becomes before after := by
  cases hfirst with
  | kept => exact hsecond
  | created text =>
      cases hsecond with
      | kept => exact .created text
      | rewritten _ new => exact .created new
  | rewritten old between program =>
      cases hsecond with
      | kept => exact .rewritten old between program
      | rewritten _ new => exact .rewritten old new program

theorem Node.Becomes.sight_eq {before after : Option Node} (hbecomes : Node.Becomes before after) :
    (after.map Node.sight).getD (false, none) = (before.map Node.sight).getD (false, none) := by
  cases hbecomes <;> rfl

theorem Node.becomes_of_outline_eq {before after : Node}
    (houtline : after.outline = before.outline) : Node.Becomes (some before) (some after) := by
  cases before with
  | file old =>
      cases after with
      | file new =>
          obtain ⟨oldText, program⟩ := old
          obtain ⟨newText, held⟩ := new
          obtain rfl : held = program := by simpa [Node.outline] using houtline
          exact .rewritten oldText newText held
      | directory | sink | full => simp [Node.outline] at houtline
  | directory | sink | full =>
      cases after <;> simp [Node.outline] at houtline
      exact .kept _

namespace FileSystem

variable {files other : FileSystem} {path elsewhere : Path}

/-- The text of the file at a path, empty if there is none. -/
def textAt (files : FileSystem) (path : Path) : String :=
  match files.find? path with
  | some (.file held) => held.content
  | _ => ""

/-- Nothing or a file lies at the path. -/
def IsRegular (files : FileSystem) (path : Path) : Prop :=
  files.find? path = none ∨ ∃ held, files.find? path = some (.file held)

/-- Puts a text into the file at a path, which keeps its program. -/
def store (files : FileSystem) (path : Path) (text : String) : FileSystem :=
  files.set path (.file ⟨text, (files.sight path).2⟩)

/-! ### Replacing a node -/

theorem replaceNode_replaceNode (path : Path) (first second : Node) (entries : List (Path × Node)) :
    replaceNode path second (replaceNode path first entries) = replaceNode path second entries := by
  induction entries with
  | nil => simp [replaceNode]
  | cons entry entries ih =>
      by_cases hkey : entry.1 = path
      · simp [replaceNode, hkey]
      · simp [replaceNode, hkey, ih]

theorem set_set (files : FileSystem) (path : Path) (first second : Node) :
    (files.set path first).set path second = files.set path second := by
  simp [set, replaceNode_replaceNode]

/-- A node that is there is replaced where it stands, so the order of two replacements does not
matter. -/
theorem replaceNode_comm (hne : elsewhere ≠ path) (first second : Node)
    {entries : List (Path × Node)} (hfound : (entries.lookup path).isSome) :
    replaceNode elsewhere second (replaceNode path first entries) =
      replaceNode path first (replaceNode elsewhere second entries) := by
  induction entries with
  | nil => simp at hfound
  | cons entry entries ih =>
      obtain ⟨key, node⟩ := entry
      by_cases hpath : key = path
      · subst hpath
        simp [replaceNode, hne.symm]
      · by_cases helsewhere : key = elsewhere
        · subst helsewhere
          simp [replaceNode, hne]
        · have hrest : (entries.lookup path).isSome := by
            simpa [List.lookup_cons, beq_false_of_ne (Ne.symm hpath)] using hfound
          simp [replaceNode, hpath, helsewhere, ih hrest]

theorem set_comm (hne : elsewhere ≠ path) (hpath : path ≠ []) (first second : Node)
    (hfound : (files.find? path).isSome) :
    (files.set path first).set elsewhere second = (files.set elsewhere second).set path first := by
  have hlookup : (files.nodes.lookup path).isSome := by simpa [find?, hpath] using hfound
  simp [set, replaceNode_comm hne first second hlookup]

/-! ### Files -/

theorem IsRegular.ne_nil (hregular : files.IsRegular path) : path ≠ [] := by
  refine ne_nil_of_find?_ne_directory files ?_
  rcases hregular with hnone | ⟨held, hheld⟩
  · simp [hnone]
  · simp [hheld]

theorem isRegular_of_find? {held : File} (hfind : files.find? path = some (.file held)) :
    files.IsRegular path :=
  .inr ⟨held, hfind⟩

theorem textAt_of_find? {held : File} (hfind : files.find? path = some (.file held)) :
    files.textAt path = held.content := by
  simp [textAt, hfind]

theorem textAt_congr (hfind : other.find? path = files.find? path) :
    other.textAt path = files.textAt path := by
  simp [textAt, hfind]

theorem find?_store (hregular : files.IsRegular path) (text : String) (elsewhere : Path) :
    (files.store path text).find? elsewhere =
      if elsewhere = path then some (.file ⟨text, (files.sight path).2⟩)
        else files.find? elsewhere :=
  find?_set hregular.ne_nil files _ elsewhere

theorem textAt_store (hregular : files.IsRegular path) (text : String) (elsewhere : Path) :
    (files.store path text).textAt elsewhere =
      if elsewhere = path then text else files.textAt elsewhere := by
  rw [textAt, find?_store hregular]
  by_cases helsewhere : elsewhere = path
  · simp [helsewhere]
  · simp [helsewhere, textAt]

theorem becomes_store (hregular : files.IsRegular path) (text : String) (elsewhere : Path) :
    Node.Becomes (files.find? elsewhere) ((files.store path text).find? elsewhere) := by
  rw [find?_store hregular]
  split
  · rename_i helsewhere
    subst helsewhere
    rcases hregular with hnone | ⟨held, hheld⟩
    · simpa [hnone, sight] using Node.Becomes.created text
    · simpa [hheld, sight, Node.sight] using Node.Becomes.rewritten held.content text held.program
  · exact .kept _

theorem sight_store (hregular : files.IsRegular path) (text : String) :
    (files.store path text).sight = files.sight := by
  funext elsewhere
  rw [sight, find?_store hregular, sight]
  split
  · rename_i helsewhere
    subst helsewhere
    rcases hregular with hnone | ⟨held, hheld⟩
    · simp [hnone, sight, Node.sight]
    · simp [hheld, sight, Node.sight]
  · rfl

theorem store_store (hregular : files.IsRegular path) (first second : String) :
    (files.store path first).store path second = files.store path second := by
  rw [store, sight_store hregular, store, set_set, store]

theorem store_comm (hne : elsewhere ≠ path) (hregular : files.IsRegular path)
    (helsewhere : files.IsRegular elsewhere) (hfound : (files.find? path).isSome)
    (first second : String) :
    (files.store path first).store elsewhere second =
      (files.store elsewhere second).store path first := by
  calc
    (files.store path first).store elsewhere second =
        (files.set path (.file ⟨first, (files.sight path).2⟩)).set elsewhere
          (.file ⟨second, (files.sight elsewhere).2⟩) := by
      rw [store, sight_store hregular, store]
    _ = (files.set elsewhere (.file ⟨second, (files.sight elsewhere).2⟩)).set path
          (.file ⟨first, (files.sight path).2⟩) := set_comm hne hregular.ne_nil _ _ hfound
    _ = (files.store elsewhere second).store path first := by
      rw [store, sight_store helsewhere, store]

theorem outline_store {held : File} (hfind : files.find? path = some (.file held)) (text : String) :
    (files.store path text).outline = files.outline :=
  outline_set_of_outline_eq hfind (by simp) (by simp [Node.outline, sight, hfind, Node.sight])

/-! ### What may become of a file system -/

/-- No search notices what may become of the files. -/
theorem sight_eq_of_becomes
    (hbecomes : ∀ path, Node.Becomes (files.find? path) (other.find? path)) :
    other.sight = files.sight := by
  funext path
  exact (hbecomes path).sight_eq

theorem isRegular_iff_of_becomes
    (hbecomes : Node.Becomes (files.find? path) (other.find? path)) :
    other.IsRegular path ↔ files.IsRegular path := by
  rw [IsRegular, IsRegular]
  generalize files.find? path = before at hbecomes
  generalize other.find? path = after at hbecomes
  cases hbecomes <;> simp

theorem becomes_of_outline_eq (houtline : other.outline = files.outline) (path : Path) :
    Node.Becomes (files.find? path) (other.find? path) := by
  have hpath : (other.find? path).map Node.outline = (files.find? path).map Node.outline :=
    congrFun houtline path
  cases hbefore : files.find? path with
  | none =>
      rw [hbefore, Option.map_none, Option.map_eq_none_iff] at hpath
      rw [hpath]
      exact .kept none
  | some before =>
      rw [hbefore, Option.map_some, Option.map_eq_some_iff] at hpath
      obtain ⟨after, hafter, hnode⟩ := hpath
      rw [hafter]
      exact Node.becomes_of_outline_eq hnode

/-! ### Opening -/

theorem openFile_of_not_isRegular (hregular : ¬ files.IsRegular path) (append : Bool) :
    files.openFile path append = files := by
  rw [IsRegular, not_or] at hregular
  rcases hfind : files.find? path with _ | (_ | held | _ | _)
  · exact absurd hfind hregular.1
  · simp [openFile, hfind]
  · exact absurd ⟨held, hfind⟩ hregular.2
  · simp [openFile, hfind]
  · simp [openFile, hfind]

theorem openFile_truncate (hregular : files.IsRegular path) :
    files.openFile path false = files.store path "" := by
  rcases hregular with hnone | ⟨held, hheld⟩
  · simp [openFile, hnone, store, sight]
  · simp [openFile, hheld, store, sight, Node.sight]

theorem openFile_append_of_file {held : File} (hfind : files.find? path = some (.file held)) :
    files.openFile path true = files := by
  simp [openFile, hfind]

theorem openFile_append_of_none (hfind : files.find? path = none) :
    files.openFile path true = files.store path "" := by
  simp [openFile, hfind, store, sight]

theorem find?_openFile_self (hregular : files.IsRegular path) (append : Bool) :
    (files.openFile path append).find? path =
      some (.file ⟨if append then files.textAt path else "", (files.sight path).2⟩) := by
  cases append with
  | false => simp [openFile_truncate hregular, find?_store hregular]
  | true =>
      rcases hregular with hnone | ⟨held, hheld⟩
      · simp [openFile_append_of_none hnone, find?_store (.inl hnone), textAt, hnone]
      · simp [openFile_append_of_file hheld, hheld, textAt, sight, Node.sight]

theorem find?_openFile_of_ne (hne : elsewhere ≠ path) (append : Bool) :
    (files.openFile path append).find? elsewhere = files.find? elsewhere := by
  by_cases hregular : files.IsRegular path
  · cases append with
    | false => simp [openFile_truncate hregular, find?_store hregular, hne]
    | true =>
        rcases hregular with hnone | ⟨held, hheld⟩
        · simp [openFile_append_of_none hnone, find?_store (.inl hnone), hne]
        · rw [openFile_append_of_file hheld]
  · rw [openFile_of_not_isRegular hregular]

theorem find?_openFile {held : File} (hfind : files.find? path = some (.file held)) (target : Path)
    (append : Bool) :
    (files.openFile target append).find? path =
      some (.file ⟨if target = path ∧ append = false then "" else held.content,
        held.program⟩) := by
  by_cases htarget : path = target
  · subst htarget
    rw [find?_openFile_self (isRegular_of_find? hfind), textAt_of_find? hfind, sight, hfind]
    cases append <;> simp [Node.sight]
  · rw [find?_openFile_of_ne htarget, hfind, if_neg fun hopen => htarget hopen.1.symm]

theorem becomes_openFile (files : FileSystem) (path : Path) (append : Bool) (elsewhere : Path) :
    Node.Becomes (files.find? elsewhere) ((files.openFile path append).find? elsewhere) := by
  by_cases hregular : files.IsRegular path
  · cases append with
    | false =>
        rw [openFile_truncate hregular]
        exact becomes_store hregular "" elsewhere
    | true =>
        rcases hregular with hnone | ⟨held, hheld⟩
        · rw [openFile_append_of_none hnone]
          exact becomes_store (.inl hnone) "" elsewhere
        · rw [openFile_append_of_file hheld]
          exact .kept _
  · rw [openFile_of_not_isRegular hregular]
    exact .kept _

theorem textAt_openFile_append (files : FileSystem) (path elsewhere : Path) :
    (files.openFile path true).textAt elsewhere = files.textAt elsewhere := by
  by_cases hregular : files.IsRegular path
  · by_cases helsewhere : elsewhere = path
    · subst helsewhere
      rw [textAt_of_find? (find?_openFile_self hregular true), if_pos rfl]
    · exact textAt_congr (find?_openFile_of_ne helsewhere true)
  · rw [openFile_of_not_isRegular hregular]

theorem outline_openFile_eq_full_iff (files : FileSystem) (path : Path) (append : Bool) :
    (files.openFile path append).outline path = some .full ↔ files.outline path = some .full := by
  by_cases hregular : files.IsRegular path
  · have hopened : (files.openFile path append).outline path ≠ some .full := by
      simp [outline, find?_openFile_self hregular, Node.outline]
    have hbefore : files.outline path ≠ some .full := by
      rcases hregular with hnone | ⟨held, hheld⟩
      · simp [outline, hnone]
      · simp [outline, hheld, Node.outline]
    exact iff_of_false hopened hbefore
  · rw [openFile_of_not_isRegular hregular]

/-! ### Writing -/

@[simp]
theorem dropBytes_nil (count : Nat) : dropBytes count [] = [] := by
  cases count <;> rfl

/-- What a file holds after a text is written to it, at its end or over its start. -/
def overwrite (append : Bool) (text content : String) : String :=
  if append then content ++ text
  else text ++ String.ofList (dropBytes text.utf8ByteSize content.toList)

/-- A text stands behind what was there, unless it is written over a start. -/
theorem overwrite_of_end {append : Bool} {content : String} (hend : append ∨ content = "")
    (text : String) : overwrite append text content = content ++ text := by
  rcases hend with rfl | rfl
  · rfl
  · cases append <;> simp [overwrite]

/-- The files after a text is written to one of them. A text that is refused leaves them as they
are. -/
def written (files : FileSystem) (path : Path) (append : Bool) (text : String) : FileSystem :=
  (files.writeFile path append text).toOption.getD files

theorem appendText_eq_written (files : FileSystem) (path : Path) (text : String) :
    files.appendText path text = files.written path true text := by
  unfold appendText written
  cases files.writeFile path true text <;> rfl

/-- Only a device without room refuses a text. -/
theorem writeFile_eq (files : FileSystem) (path : Path) (append : Bool) (text : String) :
    files.writeFile path append text =
      if files.outline path = some .full ∧ text ≠ "" then .error .noSpace
      else .ok (files.written path append text) := by
  unfold written writeFile outline
  rcases files.find? path with _ | (_ | held | _ | _)
  case some.full => by_cases htext : text = "" <;> simp [htext, Node.outline, Except.toOption]
  all_goals simp [Node.outline, Except.toOption]

theorem written_of_file {held : File} (hfind : files.find? path = some (.file held)) (append : Bool)
    (text : String) :
    files.written path append text = files.store path (overwrite append text held.content) := by
  simp [written, writeFile, hfind, store, sight, Node.sight, overwrite, Except.toOption]

theorem written_of_not_file (hfind : ∀ held, files.find? path ≠ some (.file held)) (append : Bool)
    (text : String) : files.written path append text = files := by
  unfold written writeFile
  rcases hnode : files.find? path with _ | (_ | held | _ | _)
  case some.file => exact absurd hnode (hfind held)
  case some.full => by_cases htext : text = "" <;> simp [htext, Except.toOption]
  all_goals rfl

/-- No walk notices that a file is written. -/
theorem outline_written (files : FileSystem) (path : Path) (append : Bool) (text : String) :
    (files.written path append text).outline = files.outline := by
  by_cases hfile : ∃ held, files.find? path = some (.file held)
  · obtain ⟨held, hheld⟩ := hfile
    rw [written_of_file hheld]
    exact outline_store hheld _
  · rw [written_of_not_file (not_exists.mp hfile)]

theorem find?_written_of_ne (hne : elsewhere ≠ path) (append : Bool) (text : String) :
    (files.written path append text).find? elsewhere = files.find? elsewhere := by
  by_cases hfile : ∃ held, files.find? path = some (.file held)
  · obtain ⟨held, hheld⟩ := hfile
    rw [written_of_file hheld, find?_store (isRegular_of_find? hheld), if_neg hne]
  · rw [written_of_not_file (not_exists.mp hfile)]

theorem find?_written {held : File} (hfind : files.find? path = some (.file held)) (target : Path)
    (append : Bool) (text : String) :
    (files.written target append text).find? path =
      some (.file ⟨if target = path then overwrite append text held.content else held.content,
        held.program⟩) := by
  by_cases htarget : path = target
  · subst htarget
    rw [written_of_file hfind, find?_store (isRegular_of_find? hfind), sight, hfind]
    simp [Node.sight]
  · rw [find?_written_of_ne htarget, hfind, if_neg (Ne.symm htarget)]

theorem textAt_written_append (files : FileSystem) (path : Path) (text : String)
    (elsewhere : Path) :
    ∃ more, (files.written path true text).textAt elsewhere = files.textAt elsewhere ++ more := by
  by_cases hfile : ∃ held, files.find? path = some (.file held)
  · obtain ⟨held, hheld⟩ := hfile
    rw [written_of_file hheld, textAt_store (isRegular_of_find? hheld)]
    by_cases helsewhere : elsewhere = path
    · rw [if_pos helsewhere, helsewhere, textAt_of_find? hheld]
      exact ⟨text, rfl⟩
    · exact ⟨"", by rw [if_neg helsewhere, String.append_empty]⟩
  · exact ⟨"", by rw [written_of_not_file (not_exists.mp hfile), String.append_empty]⟩

theorem written_openFile (hregular : files.IsRegular path) (append : Bool) (text : String) :
    (files.openFile path append).written path append text =
      files.store path ((if append then files.textAt path else "") ++ text) := by
  rw [written_of_file (find?_openFile_self hregular append),
    overwrite_of_end (by cases append <;> simp)]
  cases append with
  | false => rw [openFile_truncate hregular, store_store hregular]
  | true =>
      rcases hregular with hnone | ⟨held, hheld⟩
      · rw [openFile_append_of_none hnone, store_store (.inl hnone)]
      · rw [openFile_append_of_file hheld]

/-! ### Two file systems -/

/-- What lies at a path after a file is opened depends on nothing but what lay there. -/
theorem find?_openFile_congr (hfind : files.find? elsewhere = other.find? elsewhere) (path : Path)
    (append : Bool) :
    (files.openFile path append).find? elsewhere =
      (other.openFile path append).find? elsewhere := by
  by_cases helsewhere : elsewhere = path
  · subst helsewhere
    have hboth : files.IsRegular elsewhere ↔ other.IsRegular elsewhere := by
      rw [IsRegular, IsRegular, hfind]
    by_cases hregular : files.IsRegular elsewhere
    · rw [find?_openFile_self hregular, find?_openFile_self (hboth.mp hregular),
        textAt_congr hfind.symm, sight, sight, hfind]
    · rw [openFile_of_not_isRegular hregular, openFile_of_not_isRegular (mt hboth.mpr hregular),
        hfind]
  · rw [find?_openFile_of_ne helsewhere, find?_openFile_of_ne helsewhere, hfind]

/-- What lies at a path after a text is written depends on nothing but what lay there. -/
theorem find?_written_congr (hfind : files.find? elsewhere = other.find? elsewhere) (path : Path)
    (append : Bool) (text : String) :
    (files.written path append text).find? elsewhere =
      (other.written path append text).find? elsewhere := by
  by_cases helsewhere : elsewhere = path
  · subst helsewhere
    by_cases hfile : ∃ held, other.find? elsewhere = some (.file held)
    · obtain ⟨held, hheld⟩ := hfile
      rw [written_of_file (hfind.trans hheld), written_of_file hheld,
        find?_store (isRegular_of_find? (hfind.trans hheld)),
        find?_store (isRegular_of_find? hheld), sight, sight, hfind]
    · have hnone := not_exists.mp hfile
      rw [written_of_not_file hnone, written_of_not_file (hfind ▸ hnone), hfind]
  · rw [find?_written_of_ne helsewhere, find?_written_of_ne helsewhere, hfind]

end FileSystem

end LineShell
