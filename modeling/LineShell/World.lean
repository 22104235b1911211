import LineShell.Command
import LineShell.FileSystem.Walk
import LineShell.FileSystem.Write
import LineShell.Log

/-!
The state that commands act on, and the trace of what they did.

The files, the working directory and the environment are the state proper. The trace holds in order
what was written on the two output streams and by whom, what was started, and every log record;
`out`, `spawns` and `records` are views of it.
-/

namespace LineShell

structure Spawn where
  argv : List String
  executable : String
  /-- the file that takes the standard output, by the path it was opened with -/
  stdout : Option String
  stderr : Option String
  deriving DecidableEq, Repr

inductive Writer where
  | shell
  | child
  | log
  deriving DecidableEq, Repr

inductive Event where
  | wrote (writer : Writer) (stream : Descriptor) (text : String)
  | spawned (spawn : Spawn)
  | logged (record : Record)
  deriving DecidableEq, Repr

inductive Logging where
  /-- nowhere but into the trace -/
  | traceOnly
  /-- not set up yet: the bare text of warnings and above goes to standard error -/
  | unset
  | stream (threshold : Level)
  | file (threshold : Level) (path : Path)
  deriving DecidableEq, Repr

/-- The log file, which stays open for writing. -/
def Logging.path? : Logging → Option Path
  | file _ path => some path
  | _ => none

structure World where
  files : FileSystem
  cwd : Place
  env : List (String × String)
  logging : Logging
  trace : List Event
  deriving DecidableEq, Repr

namespace World

def emit (world : World) (event : Event) : World := { world with trace := world.trace ++ [event] }

def write (world : World) (stream : Descriptor) (text : String) : World :=
  world.emit (.wrote .shell stream text)

def printLine (world : World) (stream : Descriptor) (text : String) : World :=
  world.write stream (text ++ "\n")

/-- Keeps a record in the trace and passes it on where records go. -/
def log (world : World) (record : Record) : World :=
  let world := world.emit (.logged record)
  match world.logging with
  | .traceOnly => world
  | .unset =>
    if record.reaches .warning then world.emit (.wrote .log .stderr (record.text ++ "\n"))
    else world
  | .stream threshold =>
    if record.reaches threshold then world.emit (.wrote .log .stderr record.line) else world
  | .file threshold path =>
    if record.reaches threshold then { world with files := world.files.appendText path record.line }
    else world

def debug (world : World) (component : Component) (text : String) : World :=
  world.log ⟨.debug, component, text⟩

def warn (world : World) (component : Component) (text : String) : World :=
  world.log ⟨.warning, component, text⟩

def valueOf (world : World) (name : String) : Option String := world.env.lookup name

def setVariable (world : World) (name value : String) : World :=
  { world with env := (name, value) :: world.env.filter (·.1 ≠ name) }

def unsetVariable (world : World) (name : String) : World :=
  { world with env := world.env.filter (·.1 ≠ name) }

def workingDirectory (world : World) : Except SystemError String :=
  if world.cwd.lost = 0 then .ok world.cwd.path.render else .error .noEntry

def written (stream : Descriptor) (trace : List Event) : String :=
  String.join (trace.filterMap fun
    | .wrote _ on text => if on = stream then some text else none
    | _ => none)

def spawnsIn (trace : List Event) : List Spawn :=
  trace.filterMap fun
    | .spawned spawn => some spawn
    | _ => none

def recordsIn (trace : List Event) : List Record :=
  trace.filterMap fun
    | .logged record => some record
    | _ => none

def out (world : World) : String := written .stdout world.trace

def spawns (world : World) : List Spawn := spawnsIn world.trace

def records (world : World) : List Record := recordsIn world.trace

/-! Changes that others make while the shell runs. -/

def putFile (world : World) (path : Path) (file : File) : World :=
  { world with
    files := (world.files.makeDirectories [] path.dropLast).set path (.file file) }

def makeDirectory (world : World) (path : Path) : World :=
  { world with files := world.files.makeDirectories [] path }

/-- Removes a file or a directory with all it holds. A working directory in it is lost. -/
def remove (world : World) (path : Path) : World :=
  { world with
    files := world.files.removeTree path
    cwd :=
      if path.isPrefixOf world.cwd.path then
        ⟨path.dropLast, world.cwd.lost + (world.cwd.path.length - path.length + 1)⟩
      else world.cwd }

end World

end LineShell
