import LineShell.Options.Settings

/-!
What the program prints when the command line ends it: the help text, or the usage with the error.
-/

namespace LineShell

/-- The usage line, broken to the width of a screen. -/
def usageText : String :=
  "usage: minish [-h] [--prompt PROMPT]\n" ++
  "              [--log-level \x7bDEBUG,INFO,WARNING,ERROR,CRITICAL\x7d]\n" ++
  "              [--log-file PATH]\n"

def helpText : String :=
  usageText ++ "\n" ++
  "A small command interpreter with quoting and output redirection\n" ++
  "\n" ++
  "options:\n" ++
  "  -h, --help            show this help message and exit\n" ++
  "  --prompt PROMPT       prompt printed before each line (default:\n" ++
  "                        $MINISH_PROMPT or '$ ')\n" ++
  "  --log-level \x7bDEBUG,INFO,WARNING,ERROR,CRITICAL\x7d\n" ++
  "                        logging threshold (default: $MINISH_LOG_LEVEL or\n" ++
  "                        WARNING)\n" ++
  "  --log-file PATH       write log records here instead of stderr\n"

namespace Stop

def status : Stop → Int
  | help => 0
  | usage _ => 2

def out : Stop → String
  | help => helpText
  | usage _ => ""

def err : Stop → String
  | help => ""
  | usage error => usageText ++ "minish: error: " ++ error.message ++ "\n"

end Stop

end LineShell
