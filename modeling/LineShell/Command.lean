/-!
A parsed command: a name, its arguments and at most one output redirect.
-/

namespace LineShell

inductive Descriptor where
  | stdout
  | stderr
  deriving DecidableEq, Repr

structure Redirect where
  descriptor : Descriptor
  path : String
  append : Bool
  deriving DecidableEq, Repr

structure Command where
  name : String
  args : List String
  redirect : Option Redirect
  deriving DecidableEq, Repr

end LineShell
