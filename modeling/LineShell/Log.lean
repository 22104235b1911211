/-!
Log records and their levels.
-/

namespace LineShell

inductive Level where
  | debug
  | info
  | warning
  | error
  | critical
  deriving DecidableEq, Repr

namespace Level

/-- All levels, the least severe first. -/
def all : List Level := [debug, info, warning, error, critical]

def severity : Level → Nat
  | debug => 0
  | info => 1
  | warning => 2
  | error => 3
  | critical => 4

def name : Level → String
  | debug => "DEBUG"
  | info => "INFO"
  | warning => "WARNING"
  | error => "ERROR"
  | critical => "CRITICAL"

def ofName? (name : String) : Option Level := all.find? (·.name = name)

end Level

inductive Component where
  | program
  | config
  | shell
  | execution
  | builtins
  | output
  deriving DecidableEq, Repr

def Component.logger : Component → String
  | program => "minish.main"
  | config => "minish.config"
  | shell => "minish.shell"
  | execution => "minish.dispatcher"
  | builtins => "minish.shell_builtins"
  | output => "minish.runner"

structure Record where
  level : Level
  component : Component
  text : String
  deriving DecidableEq, Repr

namespace Record

def reaches (record : Record) (threshold : Level) : Bool :=
  threshold.severity ≤ record.level.severity

/-- The line written for a record, with the time written `T`. -/
def line (record : Record) : String :=
  "T - " ++ record.level.name ++ " - " ++ record.component.logger ++ " - " ++ record.text ++ "\n"

end Record

end LineShell
