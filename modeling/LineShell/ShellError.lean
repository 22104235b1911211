/-!
What the shell reports to its user, and the families these errors form.

Every error has one text, `ShellError.message`; its kind belongs to a family, whose family in turn
may belong to another (`ErrorKind.lineage`), up to the most general kind.
-/

namespace LineShell

inductive ErrorKind where
  | general
  | syntaxError
  | commandNotFound
  | builtin
  | tooManyArguments
  | homeNotSet
  | noSuchDirectory
  | spawn
  | write
  | read
  deriving DecidableEq, Repr

namespace ErrorKind

def family? : ErrorKind → Option ErrorKind
  | general => none
  | tooManyArguments | homeNotSet | noSuchDirectory => some builtin
  | syntaxError | commandNotFound | builtin | spawn | write | read => some general

def lineage (kind : ErrorKind) : List ErrorKind :=
  match kind.family? with
  | none => [kind]
  | some general => [kind, general]
  | some family => [kind, family, general]

end ErrorKind

inductive ShellError where
  | general (text : String)
  | syntaxError (text : String)
  | commandNotFound (name : String)
  /-- a builtin's failure, in its own words -/
  | builtin (text : String)
  | tooManyArguments (name : String)
  | homeNotSet
  | noSuchDirectory (path : String)
  | spawn (name reason : String)
  | write (path reason : String)
  | read (text : String)
  deriving DecidableEq, Repr

namespace ShellError

def kind : ShellError → ErrorKind
  | general _ => .general
  | syntaxError _ => .syntaxError
  | commandNotFound _ => .commandNotFound
  | builtin _ => .builtin
  | tooManyArguments _ => .tooManyArguments
  | homeNotSet => .homeNotSet
  | noSuchDirectory _ => .noSuchDirectory
  | spawn .. => .spawn
  | write .. => .write
  | read _ => .read

def message : ShellError → String
  | general text | syntaxError text | builtin text | read text => text
  | commandNotFound name => name ++ ": command not found"
  | tooManyArguments name => name ++ ": too many arguments"
  | homeNotSet => "cd: HOME not set"
  | noSuchDirectory path => "cd: " ++ path ++ ": No such file or directory"
  | spawn name reason => name ++ ": " ++ reason
  | write path reason => path ++ ": " ++ reason

/-- A line that starts with `text` where a command name is due. -/
def unexpectedToken (text : String) : ShellError :=
  .syntaxError ("syntax error near unexpected token `" ++ text ++ "'")

def isA (error : ShellError) (family : ErrorKind) : Bool := error.kind.lineage.contains family

end ShellError

end LineShell
