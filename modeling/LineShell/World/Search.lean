import LineShell.Failure
import LineShell.World

/-!
Finding the executable that a command name denotes.
-/

namespace LineShell

def World.programAt? (world : World) (path : String) : Option Program :=
  if hasNul path then none else (world.files.fileAt? world.cwd path).bind File.program

def World.searchPath (world : World) : List String :=
  match world.valueOf "PATH" with
  | none => ["/bin", "/usr/bin"]
  | some path => if path = "" then [] else Text.split ':' path

/-- A name in a search path entry. An empty entry stands for the working directory. -/
def searchCandidate (entry name : String) : String :=
  if entry = "" ∨ entry.toList.getLast? = some '/' then entry ++ name else entry ++ "/" ++ name

/-- A name with a slash is a path; any other is looked up in the entries of the search path. -/
def World.findExecutable (world : World) (name : String) : Option String :=
  let candidates :=
    if name.toList.contains '/' then [name] else world.searchPath.map (searchCandidate · name)
  candidates.find? fun path => (world.programAt? path).isSome

end LineShell
