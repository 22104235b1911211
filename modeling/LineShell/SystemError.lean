/-!
Errors of the operating system: a number and its standard text.
-/

namespace LineShell

structure SystemError where
  number : Nat
  text : String
  deriving DecidableEq, Repr

namespace SystemError

def noEntry : SystemError := ⟨2, "No such file or directory"⟩

def notDirectory : SystemError := ⟨20, "Not a directory"⟩

def isDirectory : SystemError := ⟨21, "Is a directory"⟩

def noSpace : SystemError := ⟨28, "No space left on device"⟩

def nameTooLong : SystemError := ⟨36, "File name too long"⟩

/-- The error's text with its number, without the file it concerns. -/
def describe (error : SystemError) : String :=
  "[Errno " ++ toString error.number ++ "] " ++ error.text

end SystemError

end LineShell
