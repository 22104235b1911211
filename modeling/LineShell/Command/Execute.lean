import LineShell.Builtin
import LineShell.Command.Describe
import LineShell.World.ChangeDirectory
import LineShell.World.Spawn

/-!
Executing one command.

`exit` ends the shell. Every other command takes one of three routes, and each route handles the
errors that can come up on it: a handled error is reported on standard error and becomes a nonzero
status. The exit code of an external program is the status.
-/

namespace LineShell

inductive Outcome where
  | status (code : Int)
  | exit (code : Int)
  deriving DecidableEq, Repr

inductive Route where
  | cd
  | builtin (builtin : Builtin)
  | external

def Route.handlers : Route → List (ErrorKind × Int)
  | cd => [(.builtin, 1)]
  | builtin _ => [(.builtin, 1), (.write, 1)]
  | external => [(.commandNotFound, 127), (.spawn, 126), (.write, 1)]

/-- The route of a name that is not `exit`. -/
def Registry.route (registry : Registry) (name : String) : Route :=
  if name = "cd" then .cd
  else match registry.get? name with
    | some builtin => .builtin builtin
    | none => .external

namespace World

def report (world : World) (error : ShellError) : World := world.printLine .stderr error.message

/-- Ends a command whose result is a status or an error. The first handler for the error reports it;
an error that none of them handles remains. -/
def conclude (handlers : List (ErrorKind × Int)) :
    Except ShellError Int × World → Except ShellError Outcome × World
  | (.ok code, world) => (.ok (.status code), world)
  | (.error error, world) =>
    match handlers.find? fun handler => error.isA handler.1 with
    | some (_, code) => (.ok (.status code), world.report error)
    | none => (.error error, world)

/-- An error that nothing handles ends the shell with status 1. -/
def settle : Except ShellError Outcome × World → Outcome × World
  | (.ok outcome, world) => (outcome, world)
  | (.error _, world) => (.exit 1, world)

/-- Prints a builtin's answer or sends it to the redirect's target. A builtin writes nothing on
standard error: redirecting that only creates or truncates the target. -/
def deliver (world : World) (text : String) (redirect : Option Redirect) :
    Except ShellError Unit × World :=
  match redirect with
  | none => (.ok (), world.printLine .stdout text)
  | some ⟨.stdout, path, append⟩ => world.writeOutput path (text ++ "\n") append
  | some ⟨.stderr, path, append⟩ => (world.printLine .stdout text).writeOutput path "" append

def runBuiltin (world : World) (registry : Registry) (builtin : Builtin) (command : Command) :
    Except ShellError Int × World :=
  match registry.ask builtin world command.args with
  | .error error => (.error error, world)
  | .ok text =>
    match world.deliver text command.redirect with
    | (.error error, world) => (.error error, world)
    | (.ok (), world) => (.ok 0, world)

/-- Opens the redirect's target first, also when the command turns out not to exist. -/
def runRedirected (world : World) (command : Command) : Except ShellError Int × World :=
  match world.openRedirect command.redirect with
  | (.error error, world) => (.error error, world)
  | (.ok file, world) =>
    world.runExternal command.name command.args
      ((command.redirect.map Redirect.descriptor).getD .stdout) file

def runCd (world : World) (args : List String) : Except ShellError Int × World :=
  match world.changeDirectory args with
  | (.error error, world) => (.error error, world)
  | (.ok (), world) => (.ok 0, world)

def attempt (world : World) (registry : Registry) (command : Command) :
    Except ShellError Int × World :=
  let details :=
    command.name ++ " " ++ Text.quotedList command.args ++ " redirect=" ++
      Redirect.describeOption command.redirect
  match registry.route command.name with
  | .cd => world.runCd command.args
  | .builtin builtin =>
    (world.debug .execution ("builtin " ++ details)).runBuiltin registry builtin command
  | .external => (world.debug .execution ("external " ++ details)).runRedirected command

/-- Executes a command. An error here is one that its route does not handle. -/
def dispatch (world : World) (registry : Registry) (command : Command) :
    Except ShellError Outcome × World :=
  if command.name = "exit" then (.ok (.exit 0), world)
  else conclude (registry.route command.name).handlers (world.attempt registry command)

def execute (world : World) (registry : Registry) (command : Command) : Outcome × World :=
  settle (world.dispatch registry command)

end World

end LineShell
