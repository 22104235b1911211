import LineShell.Command
import LineShell.Token
import LineShell.Text.Quoted

/-!
How tokens and commands are shown in log records.
-/

namespace LineShell

def TokenKind.describe : TokenKind → String
  | .word => "<TokenKind.WORD: 1>"
  | .redirectOut => "<TokenKind.REDIRECT_OUT: 2>"
  | .redirectAppend => "<TokenKind.REDIRECT_APPEND: 3>"

def Token.describe (token : Token) : String :=
  "Token(kind=" ++ token.kind.describe ++ ", text=" ++ Text.quoted token.text ++ ")"

def Token.describeAll (tokens : List Token) : String :=
  "[" ++ ", ".intercalate (tokens.map Token.describe) ++ "]"

def Descriptor.describe : Descriptor → String
  | .stdout => "<Descriptor.STDOUT: 1>"
  | .stderr => "<Descriptor.STDERR: 2>"

def Redirect.describe (redirect : Redirect) : String :=
  "RedirectSpec(descriptor=" ++ redirect.descriptor.describe ++ ", path=" ++
    Text.quoted redirect.path ++ ", append=" ++ (if redirect.append then "True" else "False") ++ ")"

def Redirect.describeOption : Option Redirect → String
  | none => "None"
  | some redirect => redirect.describe

def Command.describe (command : Command) : String :=
  "ParsedCommand(name=" ++ Text.quoted command.name ++ ", args=" ++ Text.quotedList command.args ++
    ", redirect=" ++ Redirect.describeOption command.redirect ++ ")"

end LineShell
