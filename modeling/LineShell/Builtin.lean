import LineShell.ShellError
import LineShell.World.Search

/-!
Builtin commands and the registry that names them.

A builtin only answers: it reads the world and changes nothing. `cd` and `exit` change the state of
the shell, so the shell handles them itself; `type` counts them as builtins all the same.
-/

namespace LineShell

/-- A builtin is told which names are builtins, the world and its arguments, and answers with the
text to print or with the text of its failure. -/
abbrev Builtin := (String → Bool) → World → List String → Except String String

namespace Builtin

def echo : Builtin := fun _ _ args => .ok (" ".intercalate args)

def pwd : Builtin := fun _ world _ =>
  world.workingDirectory.mapError fun error => "pwd: " ++ error.text

def typeLine (isBuiltin : String → Bool) (world : World) (name : String) : String :=
  if isBuiltin name then name ++ " is a shell builtin"
  else match world.findExecutable name with
    | some path => name ++ " is " ++ path
    | none => name ++ ": not found"

def type : Builtin := fun isBuiltin world names =>
  .ok ("\n".intercalate (names.map (typeLine isBuiltin world)))

end Builtin

def specialNames : List String := ["exit", "cd"]

/-- The builtins by name, in order. A name may be reserved without a builtin behind it. -/
structure Registry where
  entries : List (String × Option Builtin)

namespace Registry

def default : Registry := ⟨[("echo", some .echo), ("pwd", some .pwd), ("type", some .type)]⟩

def names (registry : Registry) : List String := registry.entries.map (·.1)

def contains (registry : Registry) (name : String) : Bool := registry.names.contains name

def get? (registry : Registry) (name : String) : Option Builtin :=
  (registry.entries.lookup name).join

def isBuiltin (registry : Registry) (name : String) : Bool :=
  specialNames.contains name || registry.contains name

def ask (registry : Registry) (builtin : Builtin) (world : World) (args : List String) :
    Except ShellError String :=
  (builtin registry.isBuiltin world args).mapError .builtin

end Registry

end LineShell
