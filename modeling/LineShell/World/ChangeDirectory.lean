import LineShell.Failure
import LineShell.ShellError
import LineShell.World

/-!
The `cd` command. On failure the working directory stays as it is.
-/

namespace LineShell

namespace World

def home? (world : World) : Option String := (world.valueOf "HOME").filter (· ≠ "")

/-- The path text that `cd` is to go to: the home directory without an argument or for `~`. -/
def cdTarget (world : World) : List String → Except ShellError String
  | _ :: _ :: _ => .error (.tooManyArguments "cd")
  | [] | ["~"] =>
    match world.home? with
    | some home => .ok home
    | none => .error .homeNotSet
  | [path] => .ok path

def placeAt (world : World) (path : String) : Except Failure Place :=
  if hasNul path then .error .embeddedNul
  else match world.files.directoryAt world.cwd path with
    | .error error => .error (.system error (some path))
    | .ok place => .ok place

/-- Moves to the directory that the arguments of `cd` name. A failure is reported with the argument
as it was given. -/
def changeDirectory (world : World) (args : List String) : Except ShellError Unit × World :=
  match world.cdTarget args with
  | .error error => (.error error, world)
  | .ok target =>
    match world.placeAt target with
    | .error failure =>
      (.error (.noSuchDirectory (args.head?.getD target)),
        world.debug .builtins
          ("chdir to " ++ Text.quoted target ++ " failed: " ++ failure.message))
    | .ok place =>
      (.ok (), { world with cwd := place }.debug .builtins
        ("working directory is now " ++ target))

end World

end LineShell
