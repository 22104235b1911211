import LineShell.Options.Usage

/-!
The configuration of the shell: defaults, over them the environment, and over that the command line.
-/

namespace LineShell

def defaultPrompt : String := "$ "

structure Config where
  prompt : Setting String
  logLevel : Setting Level
  logFile : Option (Setting String)
  deriving DecidableEq, Repr

namespace Setting

def display : Setting String → String
  | given text => text
  | blank => "[]"

def describe : Setting String → String
  | given text => Text.quoted text
  | blank => "[]"

end Setting

namespace Config

def default : Config := ⟨.given defaultPrompt, .given .warning, none⟩

def unknownLevel (name : String) : Record :=
  ⟨.warning, .config, "ignoring unknown MINISH_LOG_LEVEL " ++ Text.quoted name⟩

/-- The upper-cased level that the environment asks for; a level not set is the empty text. -/
def levelName (env : List (String × String)) : String :=
  Text.upper ((env.lookup "MINISH_LOG_LEVEL").getD "")

/-- The defaults, overwritten by what the environment sets. -/
def ofEnv (env : List (String × String)) : Config where
  prompt := ((env.lookup "MINISH_PROMPT").map .given).getD default.prompt
  logLevel := ((Level.ofName? (levelName env)).map .given).getD default.logLevel
  logFile := ((env.lookup "MINISH_LOG_FILE").filter (· ≠ "")).map .given <|> default.logFile

def envRecords (env : List (String × String)) : List Record :=
  if levelName env = "" ∨ (Level.ofName? (levelName env)).isSome then []
  else [unknownLevel (levelName env)]

/-- The command line takes precedence, field by field. -/
def override (config : Config) (settings : Settings) : Config where
  prompt := settings.prompt.getD config.prompt
  logLevel := settings.logLevel.getD config.logLevel
  logFile := settings.logFile <|> config.logFile

def load (env : List (String × String)) (arguments : List String) : Except Stop Config :=
  (Settings.ofArguments arguments).map (ofEnv env).override

def describe (config : Config) : String :=
  let level : Setting String := match config.logLevel with
    | .given level => .given level.name
    | .blank => .blank
  "ShellConfig(prompt=" ++ config.prompt.describe ++ ", log_level=" ++ level.describe ++
    ", log_file=" ++ (config.logFile.map Setting.describe).getD "None" ++ ")"

end Config

end LineShell
