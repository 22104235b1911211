import LineShell.SystemError
import LineShell.Text.Quoted

/-!
Why an operation on files or programs failed.

A failure has two texts: `message` says all that is known and goes to the log, `reason` is the short
form that the user sees.
-/

namespace LineShell

inductive Failure where
  /-- an error of the system, with the file it concerns if there is one -/
  | system (error : SystemError) (path : Option String)
  /-- the text holds a NUL character, which no path and no argument can hold -/
  | embeddedNul
  /-- an error that has only a text of its own -/
  | other (text : String)
  deriving DecidableEq, Repr

namespace Failure

def message : Failure → String
  | system error none => error.describe
  | system error (some path) => error.describe ++ ": " ++ Text.quoted path
  | embeddedNul => "embedded null byte"
  | other text => text

def reason : Failure → String
  | system error _ => error.text
  | embeddedNul => "embedded null byte"
  | other text => text

end Failure

def hasNul (text : String) : Bool := text.toList.contains '\x00'

end LineShell
