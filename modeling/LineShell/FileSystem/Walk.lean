import LineShell.FileSystem
import LineShell.Text.Split

/-!
The walk of a path text through the directories.

A walk starts at the root or at a `Place`, a directory that a process stands in, also when it has
been removed since. The first name that does not lead on decides the error.
-/

namespace LineShell

/-- A directory to start from: the part of its path that still exists, and the number of directories
below that which have been removed. -/
structure Place where
  path : Path
  lost : Nat
  deriving DecidableEq, Repr

namespace Place

def root : Place := ⟨[], 0⟩

def parent (place : Place) : Place :=
  match place.lost with
  | 0 => ⟨place.path.dropLast, 0⟩
  | lost + 1 => ⟨place.path, lost⟩

end Place

namespace FileSystem

/-- The longest name, in bytes. -/
def maxNameBytes : Nat := 255

def maxPathBytes : Nat := 4095

/-- The node with a plain name in a directory. A removed directory holds nothing. -/
def child? (files : FileSystem) (place : Place) (name : String) :
    Except SystemError (Option Node) :=
  if place.lost > 0 then .ok none
  else if name.utf8ByteSize > maxNameBytes then .error .nameTooLong
  else .ok (files.find? (place.path ++ [name]))

def enter (files : FileSystem) (place : Place) (name : String) : Except SystemError Place :=
  if name = "" ∨ name = "." then .ok place
  else if name = ".." then .ok place.parent
  else match files.child? place name with
    | .error error => .error error
    | .ok none => .error .noEntry
    | .ok (some .directory) => .ok ⟨place.path ++ [name], 0⟩
    | .ok (some _) => .error .notDirectory

def descend (files : FileSystem) : Place → List String → Except SystemError Place
  | place, [] => .ok place
  | place, name :: names =>
    match files.enter place name with
    | .error error => .error error
    | .ok next => files.descend next names

def readPath (cwd : Place) (text : String) : Except SystemError (Place × List String) :=
  if text = "" then .error .noEntry
  else if text.utf8ByteSize > maxPathBytes then .error .nameTooLong
  else .ok (if text.toList.head? = some '/' then .root else cwd, Text.split '/' text)

def directoryAt (files : FileSystem) (cwd : Place) (text : String) : Except SystemError Place :=
  match readPath cwd text with
  | .error error => .error error
  | .ok (start, names) => files.descend start names

def fileAt? (files : FileSystem) (cwd : Place) (text : String) : Option File :=
  match readPath cwd text with
  | .error _ => none
  | .ok (start, names) =>
    match names.getLast?, files.descend start names.dropLast with
    | some name, .ok place =>
      if name = "" ∨ name = "." ∨ name = ".." then none
      else match files.child? place name with
        | .ok (some (.file file)) => some file
        | _ => none
    | _, _ => none

def dropTrailing (names : List String) : List String :=
  (names.reverse.dropWhile (· = "")).reverse

/-- Where a file opened for writing under a path text lies. It need not exist yet, but its directory
must, and a path that ends like a directory's is refused. -/
def targetAt (files : FileSystem) (cwd : Place) (text : String) : Except SystemError Path :=
  match readPath cwd text with
  | .error error => .error error
  | .ok (start, names) =>
    match (dropTrailing names).getLast? with
    | none => .error .isDirectory
    | some name =>
      match files.descend start (dropTrailing names).dropLast with
      | .error error => .error error
      | .ok place =>
        if name = "." ∨ name = ".." ∨ names.getLast? = some "" then .error .isDirectory
        else match files.child? place name with
          | .error error => .error error
          | .ok (some .directory) => .error .isDirectory
          | .ok (some _) => .ok (place.path ++ [name])
          | .ok none =>
            if place.lost > 0 then .error .noEntry else .ok (place.path ++ [name])

end FileSystem

end LineShell
