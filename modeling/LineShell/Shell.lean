import LineShell.Command.Execute
import LineShell.Command.Resolve

/-!
The shell: reading lines and executing them one after another.
-/

namespace LineShell

/-- Standard input: its lines, and the text of the error that ends it if it does not just end. -/
structure Input where
  lines : List String
  failure : Option String
  deriving DecidableEq, Repr

namespace Input

/-- The lines of a text. Only a newline ends a line, and the last line needs none. -/
def linesOf (text : String) : List String :=
  match (Text.split '\n' text).reverse with
  | [] => []
  | last :: earlier => if last = "" then earlier.reverse else (last :: earlier).reverse

end Input

structure Shell where
  registry : Registry
  prompt : String

namespace Shell

/-- Executes one line. A line that is no command has status 0. -/
def executeLine (shell : Shell) (world : World) (line : String) : Outcome × World :=
  let tokens := tokenize line
  let world := world.debug .shell ("tokens: " ++ Token.describeAll tokens)
  match Command.ofTokens tokens with
  | .error error => World.settle (World.conclude [(.syntaxError, 1)] (.error error, world))
  | .ok none => (.status 0, world)
  | .ok (some command) =>
    (world.debug .shell ("resolved: " ++ command.describe)).execute shell.registry command

/-- What happens where the input ends: its end is status 0, an error is reported and is status 1. -/
def atEnd (world : World) (failure : Option String) : Int × World :=
  match failure with
  | none => (0, world.printLine .stdout "")
  | some error =>
    let error := ShellError.read error
    (1, (world.log ⟨.error, .shell, "cannot read standard input: " ++ error.message⟩).printLine
      .stderr ("error reading input: " ++ error.message))

def runLines (shell : Shell) (failure : Option String) : List String → World → Int × World
  | [], world => atEnd (world.write .stdout shell.prompt) failure
  | line :: lines, world =>
    match shell.executeLine (world.write .stdout shell.prompt) line with
    | (.exit code, world) => (code, world)
    | (.status _, world) => shell.runLines failure lines world

def run (shell : Shell) (input : Input) (world : World) : Int × World :=
  shell.runLines input.failure input.lines world

end Shell

end LineShell
