import LineShell.Command
import LineShell.ShellError
import LineShell.Token.Scan

/-!
From tokens to a command.

The first word is the name. Only the first operator after it is honoured, and only when a token
follows it: that token is the target and everything after it is ignored. A token `2` directly before
the operator selects standard error and is no argument.
-/

namespace LineShell

/-- The index of the first redirect operator after the command name. -/
def findRedirect (tokens : List Token) : Option Nat :=
  (tokens.tail.findIdx? Token.isRedirect).map (· + 1)

def splitAtRedirect (tokens : List Token) : List Token × List Token :=
  tokens.span (!·.isRedirect)

def redirectOf (before : List Token) (operator target : Token) : Redirect where
  descriptor := if before.getLast?.map Token.text = some "2" then .stderr else .stdout
  path := target.text
  append := operator.kind = .redirectAppend

namespace Command

/-- The command that a line's tokens denote; a line without tokens denotes none. -/
def ofTokens : List Token → Except ShellError (Option Command)
  | [] => .ok none
  | first :: rest =>
    if first.kind ≠ .word then .error (.unexpectedToken first.text)
    else match splitAtRedirect rest with
      | (before, operator :: target :: _) =>
        let redirect := redirectOf (first :: before) operator target
        let args := if redirect.descriptor = .stderr then before.dropLast else before
        .ok (some ⟨first.text, args.map Token.text, some redirect⟩)
      | _ => .ok (some ⟨first.text, rest.map Token.text, none⟩)

def ofLine (line : String) : Except ShellError (Option Command) := ofTokens (tokenize line)

end Command

end LineShell
