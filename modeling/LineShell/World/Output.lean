import LineShell.Failure
import LineShell.ShellError
import LineShell.World

/-!
Writing to the target of a redirect.

A target is opened, which creates or truncates it, before anything is written. What cannot be opened
is left as it was.
-/

namespace LineShell

structure Handle where
  /-- the path as it was given -/
  name : String
  path : Path
  append : Bool
  deriving DecidableEq, Repr

namespace World

def openTarget (world : World) (path : String) (append : Bool) : Except Failure (Handle × World) :=
  if hasNul path then .error .embeddedNul
  else match world.files.targetAt world.cwd path with
    | .error error => .error (.system error (some path))
    | .ok target =>
      .ok (⟨path, target, append⟩, { world with files := world.files.openFile target append })

def writeTo (world : World) (handle : Handle) (text : String) : Except Failure World :=
  match world.files.writeFile handle.path handle.append text with
  | .error error => .error (.system error none)
  | .ok files => .ok { world with files := files }

/-- Writes a text to a file, which is truncated first unless appending. -/
def writeOutput (world : World) (path text : String) (append : Bool) :
    Except ShellError Unit × World :=
  let fail (world : World) (failure : Failure) : Except ShellError Unit × World :=
    (.error (.write path failure.reason),
      world.warn .output ("cannot write to " ++ path ++ ": " ++ failure.message))
  match world.openTarget path append with
  | .error failure => fail world failure
  | .ok (handle, opened) =>
    match opened.writeTo handle text with
    | .error failure => fail opened failure
    | .ok written => (.ok (), written)

def openRedirect (world : World) : Option Redirect → Except ShellError (Option Handle) × World
  | none => (.ok none, world)
  | some redirect =>
    match world.openTarget redirect.path redirect.append with
    | .error failure =>
      (.error (.write redirect.path failure.reason),
        world.warn .output ("cannot open redirect target " ++ redirect.path ++ ": " ++
          failure.message))
    | .ok (handle, opened) => (.ok (some handle), opened)

end World

end LineShell
