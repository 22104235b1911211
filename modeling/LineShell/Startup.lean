import LineShell.Config
import LineShell.Shell

/-!
The whole program: configuration, logging, and then the shell.
-/

namespace LineShell

inductive StartError where
  /-- the log file cannot be opened -/
  | logFile (failure : Failure)
  /-- the log level is blank -/
  | noLevel
  deriving DecidableEq, Repr

def StartError.message : StartError → String
  | logFile failure => failure.message
  | noLevel => "Level not an integer or a valid string: []"

inductive Launch where
  | ready (shell : Shell)
  /-- nothing is left to do but to exit -/
  | done (code : Int)
  | failed (error : StartError)

/-- A path text without `.`, `..` and empty names, by the text alone. -/
def Path.normalize (names : List String) : Path :=
  names.foldl (fun path name =>
    if name = "" ∨ name = "." then path
    else if name = ".." then path.dropLast
    else path ++ [name]) []

/-- The absolute form of a path text, by the text alone. Exactly two leading slashes stay two. -/
def World.absolutePath (world : World) (text : String) : Except Failure String :=
  let ofAbsolute (text : String) : String :=
    let lead := match text.toList with
      | '/' :: '/' :: '/' :: _ => ""
      | '/' :: '/' :: _ => "/"
      | _ => ""
    lead ++ (Path.normalize (Text.split '/' text)).render
  if text.toList.head? = some '/' then .ok (ofAbsolute text)
  else match world.workingDirectory with
    | .error error => .error (.system error none)
    | .ok directory => .ok (ofAbsolute (directory ++ "/" ++ text))

namespace World

def openLogFile (world : World) (text : String) : Except Failure (Handle × World) :=
  match world.absolutePath text with
  | .error failure => .error failure
  | .ok path => world.openTarget path true

/-- Sets up where log records go from now on. An empty or blank log file is none. -/
def setUpLogging (world : World) (config : Config) : Except StartError Unit × World :=
  let file : Except Failure (Option Handle × World) :=
    match config.logFile with
    | none | some .blank => .ok (none, world)
    | some (.given text) =>
      if text = "" then .ok (none, world)
      else (world.openLogFile text).map fun (handle, opened) => (some handle, opened)
  match file with
  | .error failure => (.error (.logFile failure), world)
  | .ok (handle, opened) =>
    match config.logLevel, handle with
    | .blank, _ => (.error .noLevel, opened)
    | .given level, none => (.ok (), { opened with logging := .stream level })
    | .given level, some handle => (.ok (), { opened with logging := .file level handle.path })

def printStop (world : World) (stop : Stop) : World :=
  let printed := if stop.out = "" then world else world.write .stdout stop.out
  if stop.err = "" then printed else printed.write .stderr stop.err

def prepare (world : World) (arguments : List String) : Launch × World :=
  let world := (Config.envRecords world.env).foldl log world
  match Config.load world.env arguments with
  | .error stop => (.done stop.status, world.printStop stop)
  | .ok config =>
    match world.setUpLogging config with
    | (.error error, world) => (.failed error, world)
    | (.ok (), world) =>
      (.ready ⟨.default, config.prompt.display⟩,
        world.debug .program ("starting with " ++ config.describe))

def start (world : World) (arguments : List String) (input : Input) :
    Except StartError Int × World :=
  match world.prepare arguments with
  | (.failed error, world) => (.error error, world)
  | (.done code, world) => (.ok code, world)
  | (.ready shell, world) =>
    let (code, world) := shell.run input world
    (.ok code, world)

end World

end LineShell
