import LineShell.World.Output
import LineShell.World.Search

/-!
Running an external program.

The program gets the open file, if there is one, on the stream that the redirect selects, and
inherits the other stream. Its exit code is returned unchanged; only a program that is missing or
cannot be started is an error.
-/

namespace LineShell

namespace World

/-- Text that a started program writes on a stream. What a file does not take is lost. -/
def childWrites (world : World) (stream : Descriptor) (file : Option Handle) (text : String) :
    World :=
  if text = "" then world
  else match file with
    | none => world.emit (.wrote .child stream text)
    | some handle =>
      match world.writeTo handle text with
      | .ok written => written
      | .error _ => world

def fileOn (stream selected : Descriptor) (file : Option Handle) : Option Handle :=
  if stream = selected then file else none

/-- The file that a path text denotes is open for writing: it is the one given or the log file. -/
def isOpen (world : World) (opened : Option Path) (text : String) : Bool :=
  (world.files.targetAt world.cwd text).toOption.any fun path =>
    opened = some path || world.logging.path? = some path

def ending? (world : World) (executable : String) (opened : Option Path) : Option Ending :=
  (world.programAt? executable).map fun program =>
    if world.isOpen opened executable then program.busy else program.usual

/-- Starts a program, which does what its file says (`Program`), and waits for its end. -/
def spawn (world : World) (argv : List String) (executable : String) (selected : Descriptor)
    (file : Option Handle) : Except Failure Int × World :=
  if argv.any hasNul then (.error .embeddedNul, world)
  else
    let stdout := fileOn .stdout selected file
    let stderr := fileOn .stderr selected file
    let started := world.emit
      (.spawned ⟨argv, executable, stdout.map Handle.name, stderr.map Handle.name⟩)
    match world.ending? executable (file.map Handle.path) with
    | none => (.error (.system .noEntry (some executable)), started)
    | some (.failsToStart error) => (.error (.system error (some executable)), started)
    | some (.refuses text) => (.error (.other text), started)
    | some (.exits out err code) =>
      (.ok code, (started.childWrites .stdout stdout out).childWrites .stderr stderr err)

def runExternal (world : World) (name : String) (args : List String) (selected : Descriptor)
    (file : Option Handle) : Except ShellError Int × World :=
  match world.findExecutable name with
  | none => (.error (.commandNotFound name), world)
  | some executable =>
    let world := world.debug .output
      ("running " ++ name ++ " (" ++ executable ++ ") with " ++ Text.quotedList args)
    match world.spawn (name :: args) executable selected file with
    | (.error failure, world) =>
      (.error (.spawn name failure.reason),
        world.warn .output ("could not start " ++ executable ++ ": " ++ failure.message))
    | (.ok code, world) =>
      (.ok code, world.debug .output (name ++ " exited with status " ++ toString code))

end World

end LineShell
