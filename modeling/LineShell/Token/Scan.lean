import LineShell.Token

/-!
Reading a line into tokens, one character at a time.

A `Scan` holds the finished tokens, the word in progress and the quoting mode. Quotes and escaping
backslashes leave no trace in a word but change the mode. A line may end in any mode: `Scan.finish`
keeps the word in progress, and a backslash with nothing after it is dropped.
-/

namespace LineShell

inductive Mode where
  | normal
  | inSingle
  | inDouble
  | escape
  | escapeInDouble
  deriving DecidableEq, Repr

/-- A backslash was just read, and the next character stands for itself. -/
def Mode.escaping : Mode → Bool
  | .escape | .escapeInDouble => true
  | .normal | .inSingle | .inDouble => false

def Mode.resume : Mode → Mode
  | .escapeInDouble => .inDouble
  | .normal | .inSingle | .inDouble | .escape => .normal

/-- The characters that a backslash escapes inside double quotes; before any other it is kept. -/
def escapedInDouble (c : Char) : Bool :=
  c == '"' || c == '\\' || c == '$' || c == '\x60' || c == '\n'

structure Scan where
  /-- the finished tokens, the latest first -/
  tokens : List Token
  /-- the word in progress, the latest character first -/
  word : List Char
  mode : Mode
  deriving DecidableEq, Repr

namespace Scan

def start : Scan := ⟨[], [], .normal⟩

def push (scan : Scan) (c : Char) : Scan := { scan with word := c :: scan.word }

def emit (scan : Scan) (token : Token) : Scan := { scan with tokens := token :: scan.tokens }

def enter (scan : Scan) (mode : Mode) : Scan := { scan with mode := mode }

/-- Ends the word in progress. An empty word is no word, also when it was written with quotes. -/
def flush (scan : Scan) : Scan :=
  match scan.word with
  | [] => scan
  | c :: cs =>
    { scan with tokens := .word (String.ofList (c :: cs).reverse) :: scan.tokens, word := [] }

/-- A word `1` directly before `>` only names standard output, so it is no argument. -/
def dropMarker (scan : Scan) : Scan :=
  if scan.word = ['1'] then { scan with word := [] } else scan

/-- Reads one character outside quotes; a `>` read here is not followed by another. -/
def stepNormal (scan : Scan) (c : Char) : Scan :=
  match c with
  | '\'' => scan.enter .inSingle
  | '"' => scan.enter .inDouble
  | '\\' => scan.enter .escape
  | '>' => scan.dropMarker.flush.emit .redirectOut
  | ' ' => scan.flush
  | _ => scan.push c

def step (scan : Scan) (c : Char) : Scan :=
  match scan.mode with
  | .normal => scan.stepNormal c
  | .inSingle => if c = '\'' then scan.enter .normal else scan.push c
  | .inDouble =>
    if c = '"' then scan.enter .normal
    else if c = '\\' then scan.enter .escapeInDouble
    else scan.push c
  | .escape => (scan.push c).enter scan.mode.resume
  | .escapeInDouble =>
    ((if escapedInDouble c then scan else scan.push '\\').push c).enter scan.mode.resume

/-- Reads a text. Outside quotes `>>` is one operator. -/
def run : Scan → List Char → Scan
  | scan, [] => scan
  | scan, [c] => scan.step c
  | scan, c :: d :: cs =>
    if scan.mode = .normal ∧ c = '>' ∧ d = '>' then run (scan.flush.emit .redirectAppend) cs
    else run (scan.step c) (d :: cs)

def finish (scan : Scan) : List Token := scan.flush.tokens.reverse

end Scan

def finalMode (line : String) : Mode := (Scan.start.run line.toList).mode

def tokenize (line : String) : List Token := (Scan.start.run line.toList).finish

end LineShell
