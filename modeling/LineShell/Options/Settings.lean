import LineShell.Options.Argument
import LineShell.Text.Upper

/-!
What the options of the command line set.

The options are carried out from left to right, and the first one that asks for help or is wrong
decides. Arguments that belong to no option are an error too, reported after all else.
-/

namespace LineShell

/-- The value of an option. A value written `--` behind `=` counts as none: the option is given, but
blank. -/
inductive Setting (α : Type) where
  | given (value : α)
  | blank
  deriving DecidableEq, Repr

inductive Stop where
  | help
  | usage (error : UsageError)
  deriving DecidableEq, Repr

structure Settings where
  prompt : Option (Setting String)
  logLevel : Option (Setting Level)
  logFile : Option (Setting String)
  deriving DecidableEq, Repr

namespace Settings

def empty : Settings := ⟨none, none, none⟩

def give (settings : Settings) (field : Field) (value : Setting String) : Except Stop Settings :=
  match field, value with
  | .prompt, _ => .ok { settings with prompt := some value }
  | .logFile, _ => .ok { settings with logFile := some value }
  | .logLevel, .blank => .ok { settings with logLevel := some .blank }
  | .logLevel, .given text =>
    match Level.ofName? (Text.upper text) with
    | some level => .ok { settings with logLevel := some (.given level) }
    | none => .error (.usage (.invalidLevel (Text.upper text)))

/-- What asking for help with a value leads to. Short options may be run together, and the only one
is `-h`; any other text behind it is refused. -/
def helpWith (short : Bool) (value : String) : Stop :=
  let rest := if short then value.toList.dropWhile (· = 'h') else value.toList
  if short && value ≠ "" && rest.isEmpty then .help else .usage (.ignoredValue (String.ofList rest))

def explicitValue (text : String) : Setting String := if text = "--" then .blank else .given text

def leaveOver (text : String) (result : Settings × List String) : Settings × List String :=
  (result.1, text :: result.2)

/-- Carries out the options from left to right, and collects what is left over. -/
def read (settings : Settings) : List Argument → Except Stop (Settings × List String)
  | [] => .ok (settings, [])
  | .option .help _ none :: _ => .error .help
  | .option .help short (some text) :: _ => .error (helpWith short text)
  | .option (.set field) _ (some text) :: arguments =>
    match settings.give field (explicitValue text) with
    | .error stop => .error stop
    | .ok settings => settings.read arguments
  | .option (.set field) _ none :: .plain text :: arguments =>
    match settings.give field (.given text) with
    | .error stop => .error stop
    | .ok settings => settings.read arguments
  | .option (.set field) _ none :: _ => .error (.usage (.expectedValue field))
  | .unknown text :: arguments => (settings.read arguments).map (leaveOver text)
  | .plain text :: arguments => (settings.read arguments).map (leaveOver text)
  | .endOfOptions :: arguments => (settings.read arguments).map (leaveOver "--")

def ofArguments (texts : List String) : Except Stop Settings :=
  match Argument.ofTexts texts with
  | .error error => .error (.usage error)
  | .ok arguments =>
    match empty.read arguments with
    | .error stop => .error stop
    | .ok (settings, []) => .ok settings
    | .ok (_, leftovers) => .error (.usage (.unrecognized leftovers))

end Settings

end LineShell
