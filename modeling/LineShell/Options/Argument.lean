import LineShell.Log
import LineShell.Text.DecimalDigit
import LineShell.Text.Quoted

/-!
The arguments of the command line, sorted into options and others.

An option may be abbreviated to any start of its long name that fits no other option, and its value
may stand behind `=`. What has the form of a negative number, or holds a space and fits no option,
is plain.
-/

namespace LineShell

inductive Field where
  | prompt
  | logLevel
  | logFile
  deriving DecidableEq, Repr

inductive Flag where
  | help
  | set (field : Field)
  deriving DecidableEq, Repr

namespace Flag

/-- The long names, in the order in which they are listed. -/
def longNames : List (String × Flag) :=
  [("--help", help), ("--prompt", set .prompt), ("--log-level", set .logLevel),
    ("--log-file", set .logFile)]

def title : Flag → String
  | help => "-h/--help"
  | set .prompt => "--prompt"
  | set .logLevel => "--log-level"
  | set .logFile => "--log-file"

end Flag

inductive UsageError where
  | ambiguous (argument : String) (candidates : List String)
  | expectedValue (field : Field)
  | ignoredValue (value : String)
  | invalidLevel (value : String)
  | unrecognized (arguments : List String)
  deriving DecidableEq, Repr

namespace UsageError

def message : UsageError → String
  | ambiguous argument candidates =>
    "ambiguous option: " ++ argument ++ " could match " ++ ", ".intercalate candidates
  | expectedValue field => "argument " ++ (Flag.set field).title ++ ": expected one argument"
  | ignoredValue value =>
    "argument " ++ Flag.help.title ++ ": ignored explicit argument " ++ Text.quoted value
  | invalidLevel value =>
    "argument " ++ (Flag.set .logLevel).title ++ ": invalid choice: " ++ Text.quoted value ++
      " (choose from " ++ ", ".intercalate (Level.all.map fun level => Text.quoted level.name) ++
        ")"
  | unrecognized arguments => "unrecognized arguments: " ++ " ".intercalate arguments

end UsageError

inductive Argument where
  /-- an option by one of its names, with the value written behind it -/
  | option (flag : Flag) (short : Bool) (value : Option String)
  /-- an argument that has the form of an option but no known name -/
  | unknown (text : String)
  | plain (text : String)
  /-- `--`, after which all arguments are plain -/
  | endOfOptions
  deriving DecidableEq, Repr

def cutAtEquals (text : String) : String × Option String :=
  match text.toList.span (· ≠ '=') with
  | (name, _ :: value) => (String.ofList name, some (String.ofList value))
  | (_, []) => (text, none)

def isDigits (cs : List Char) : Bool := !cs.isEmpty && cs.all Text.isDecimalDigit

/-- The text reads as a negative number: digits, or digits after a point that digits may precede.
One newline at the end does not matter. -/
def looksNegative (text : String) : Bool :=
  match text.toList with
  | '-' :: cs =>
    let body := if cs.getLast? = some '\n' then cs.dropLast else cs
    isDigits body ||
      match body.dropWhile Text.isDecimalDigit with
      | '.' :: fraction => isDigits fraction
      | _ => false
  | _ => false

namespace Argument

def candidates (name : String) : List (String × Flag) :=
  Flag.longNames.filter fun entry => name.toList.isPrefixOf entry.1.toList

def ofLong (text : String) : Except UsageError Argument :=
  let (name, value) := cutAtEquals text
  match Flag.longNames.lookup text, Flag.longNames.lookup name, candidates name with
  | some flag, _, _ => .ok (.option flag false none)
  | none, some flag, _ => .ok (.option flag false value)
  | none, none, [(_, flag)] => .ok (.option flag false value)
  | none, none, [] => .ok (if text.toList.contains ' ' then .plain text else .unknown text)
  | none, none, several => .error (.ambiguous text (several.map (·.1)))

def ofShort (text : String) : Argument :=
  match text.toList with
  | ['-'] => .plain text
  | ['-', 'h'] => .option .help true none
  | '-' :: 'h' :: '=' :: value => .option .help true (some (String.ofList value))
  | '-' :: 'h' :: value => .option .help true (some (String.ofList value))
  | _ =>
    if looksNegative text || text.toList.contains ' ' then .plain text else .unknown text

def ofText (text : String) : Except UsageError Argument :=
  match text.toList with
  | '-' :: '-' :: _ => ofLong text
  | '-' :: _ => .ok (ofShort text)
  | _ => .ok (.plain text)

/-- Sorts all arguments, up to the first that is ambiguous. -/
def ofTexts : List String → Except UsageError (List Argument)
  | [] => .ok []
  | text :: texts =>
    if text = "--" then .ok (.endOfOptions :: texts.map .plain)
    else match ofText text with
      | .error error => .error error
      | .ok argument => (ofTexts texts).map (argument :: ·)

end Argument

end LineShell
