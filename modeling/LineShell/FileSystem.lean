import LineShell.SystemError

/-!
Files and directories, each known by its absolute path.

`find?` is the view of a file system: what an operation does is said by what it changes at which
path (`find?_set`).
-/

namespace LineShell

inductive Ending where
  | exits (stdout stderr : String) (code : Int)
  | failsToStart (error : SystemError)
  | refuses (text : String)
  deriving DecidableEq, Repr

/-- What an executable file does when it is started. Programs are assumed to be constant: neither
the arguments, the streams and the environment nor the contents of files decide what they write and
how they end, and they write to nothing but their two output streams. -/
structure Program where
  usual : Ending
  /-- while the file itself is open for writing, when many systems refuse to start it -/
  busy : Ending
  deriving DecidableEq, Repr

structure File where
  content : String
  /-- a file with a program is executable -/
  program : Option Program
  deriving DecidableEq, Repr

inductive Node where
  | directory
  | file (file : File)
  /-- a device that takes any text and keeps none -/
  | sink
  /-- a device without room for any text -/
  | full
  deriving DecidableEq, Repr

/-- An absolute path: the names from the root on. -/
abbrev Path := List String

def Path.render (path : Path) : String := "/" ++ "/".intercalate path

structure FileSystem where
  nodes : List (Path × Node)
  deriving DecidableEq, Repr

namespace FileSystem

/-- The node at a path. The root is always a directory. -/
def find? (files : FileSystem) (path : Path) : Option Node :=
  if path = [] then some .directory else files.nodes.lookup path

def replaceNode (path : Path) (node : Node) : List (Path × Node) → List (Path × Node)
  | [] => [(path, node)]
  | entry :: entries =>
    if entry.1 = path then (path, node) :: entries else entry :: replaceNode path node entries

def set (files : FileSystem) (path : Path) (node : Node) : FileSystem :=
  ⟨replaceNode path node files.nodes⟩

theorem lookup_replaceNode (path other : Path) (node : Node) (entries : List (Path × Node)) :
    (replaceNode path node entries).lookup other =
      if other = path then some node else entries.lookup other := by
  induction entries with
  | nil =>
      by_cases hother : other = path
      · simp [replaceNode, hother]
      · simp [replaceNode, List.lookup_cons, beq_false_of_ne hother, hother]
  | cons entry entries ih =>
      obtain ⟨key, value⟩ := entry
      by_cases hkey : key = path
      · subst hkey
        by_cases hother : other = key
        · simp [replaceNode, hother]
        · simp [replaceNode, List.lookup_cons, beq_false_of_ne hother, hother]
      · by_cases hother : other = key
        · subst hother
          simp [replaceNode, hkey]
        · simp [replaceNode, List.lookup_cons, hkey, beq_false_of_ne hother, ih]

/-- Below the root, what was put at a path is there, and nothing else has changed. -/
theorem find?_set {path : Path} (hpath : path ≠ []) (files : FileSystem) (node : Node)
    (other : Path) :
    (files.set path node).find? other = if other = path then some node else files.find? other := by
  unfold find? set
  by_cases hother : other = []
  · subst hother
    simp [hpath.symm]
  · simp [hother, lookup_replaceNode]

def removeTree (files : FileSystem) (path : Path) : FileSystem :=
  ⟨files.nodes.filter fun entry => !path.isPrefixOf entry.1⟩

def ensureDirectory (files : FileSystem) (path : Path) : FileSystem :=
  if (files.find? path).isSome then files else files.set path .directory

/-- Makes the directories `names` below `path`, each inside the one before it. -/
def makeDirectories (files : FileSystem) (path : Path) : List String → FileSystem
  | [] => files
  | name :: names =>
    makeDirectories (files.ensureDirectory (path ++ [name])) (path ++ [name]) names

end FileSystem

end LineShell
