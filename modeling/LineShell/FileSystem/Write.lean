import LineShell.FileSystem

/-!
Opening and writing files.
-/

namespace LineShell

namespace FileSystem

/-- Opens the file at a path for writing: it is created if need be, and emptied unless appending. -/
def openFile (files : FileSystem) (path : Path) (append : Bool) : FileSystem :=
  match files.find? path with
  | none => files.set path (.file ⟨"", none⟩)
  | some (.file file) =>
    if append then files else files.set path (.file { file with content := "" })
  | some _ => files

/-- What a text of `count` bytes leaves of the text it is written over. -/
def dropBytes : Nat → List Char → List Char
  | 0, cs => cs
  | _ + 1, [] => []
  | count + 1, c :: cs => dropBytes (count + 1 - c.utf8Size) cs

/-- Writes a text to an open file, at its end or over its start. -/
def writeFile (files : FileSystem) (path : Path) (append : Bool) (text : String) :
    Except SystemError FileSystem :=
  match files.find? path with
  | some (.file file) =>
    let content :=
      if append then file.content ++ text
      else text ++ String.ofList (dropBytes text.utf8ByteSize file.content.toList)
    .ok (files.set path (.file { file with content := content }))
  | some .full => if text = "" then .ok files else .error .noSpace
  | _ => .ok files

def appendText (files : FileSystem) (path : Path) (text : String) : FileSystem :=
  match files.writeFile path true text with
  | .ok files => files
  | .error _ => files

end FileSystem

end LineShell
