import LineShell.Command

/-!
Writing a command as a line.

Every word stands between double quotes, so that nothing in it is read as a separator or an
operator.
-/

namespace LineShell

def Text.guarded (c : Char) : List Char :=
  if c = '"' ∨ c = '\\' then ['\\', c] else [c]

/-- A word between double quotes, with a backslash before each double quote and backslash in it. -/
def Text.enquote (word : String) : String :=
  String.ofList ('"' :: word.toList.flatMap Text.guarded ++ ['"'])

/-- The operator of a redirect. A leading `2` selects standard error. -/
def Redirect.operator (redirect : Redirect) : String :=
  match redirect.descriptor, redirect.append with
  | .stdout, false => ">"
  | .stdout, true => ">>"
  | .stderr, false => "2>"
  | .stderr, true => "2>>"

namespace Command

def words (command : Command) : List String := command.name :: command.args

def render (command : Command) : String :=
  " ".intercalate (command.words.map Text.enquote) ++
    match command.redirect with
    | none => ""
    | some redirect => " " ++ redirect.operator ++ " " ++ Text.enquote redirect.path

/-- The command can be said by a line: it has no empty words, and its last word is not taken for the
mark of standard error. -/
structure Expressible (command : Command) : Prop where
  name_ne : command.name ≠ ""
  args_ne : ∀ arg ∈ command.args, arg ≠ ""
  path_ne : ∀ redirect ∈ command.redirect, redirect.path ≠ ""
  last_ne : ∀ redirect ∈ command.redirect,
    redirect.descriptor = .stdout → command.words.getLast? ≠ some "2"

end Command

end LineShell
