import LineShell.Startup

/-!
The program on a terminal.

It runs over files in memory: at the start there are the working directory and the home directory,
both empty. What commands write is there for later commands of the same run. Whatever a command
prints is shown before the next line is read.
-/

namespace LineShell.Main

def variableNames : List String :=
  ["HOME", "PATH", "MINISH_PROMPT", "MINISH_LOG_LEVEL", "MINISH_LOG_FILE"]

def readEnvironment : IO (List (String × String)) :=
  variableNames.filterMapM fun name => do return (← IO.getEnv name).map (name, ·)

def pathOf (text : String) : Path := Path.normalize (Text.split '/' text)

def readWorld : IO World := do
  let env ← readEnvironment
  let cwd := pathOf (← IO.currentDir).toString
  let devices : FileSystem :=
    ⟨[(["dev"], .directory), (["dev", "null"], .sink), (["dev", "full"], .full)]⟩
  let world : World := ⟨devices, ⟨cwd, 0⟩, env, .unset, []⟩
  return (world.makeDirectory cwd).makeDirectory (pathOf (world.home?.getD "/"))

def display (before : List Event) (world : World) : IO Unit := do
  for event in world.trace.drop before.length do
    match event with
    | .wrote _ .stdout text => (← IO.getStdout).putStr text
    | .wrote _ .stderr text => (← IO.getStderr).putStr text
    | _ => pure ()
  (← IO.getStdout).flush

/-- Reads and executes lines until one exits or the input ends. -/
partial def converse (shell : Shell) (world : World) : IO Int := do
  let prompted := world.write .stdout shell.prompt
  display world.trace prompted
  let line ← (← IO.getStdin).getLine
  if line.isEmpty then
    let (code, ended) := Shell.atEnd prompted none
    display prompted.trace ended
    return code
  let (outcome, next) := shell.executeLine prompted ((Input.linesOf line).headD "")
  display prompted.trace next
  match outcome with
  | .exit code => return code
  | .status _ => converse shell next

end LineShell.Main

def main (arguments : List String) : IO UInt32 := do
  let world ← LineShell.Main.readWorld
  let (launch, prepared) := world.prepare arguments
  LineShell.Main.display world.trace prepared
  match launch with
  | .failed error =>
    (← IO.getStderr).putStrLn error.message
    return 1
  | .done code => return code.toNat.toUInt32
  | .ready shell => return (← LineShell.Main.converse shell prepared).toNat.toUInt32
