import MiniExpr.Text.Classes
/-!
# Settings

The settings a configuration file holds, in two sections: `logging`, with the level of messages to
show, and `tokens`, with the sample text and the number of results the `tokens` command prints
(`0` for all of them).  Every setting has a default, used when the file leaves it out.
-/

namespace MiniExpr

/-- How much the program logs, from the fewest messages to the most. -/
inductive LogLevel where
  | critical | error | warning | info | debug
  deriving DecidableEq, Repr, Inhabited

namespace LogLevel

/-- All levels. -/
def all : List LogLevel := [critical, error, warning, info, debug]

/-- The name of a level, in capitals. -/
def name : LogLevel → String
  | critical => "CRITICAL"
  | error => "ERROR"
  | warning => "WARNING"
  | info => "INFO"
  | debug => "DEBUG"

/-- The level a text names, in any case: its capital form must be a level's name. -/
def ofText? (s : String) : Option LogLevel :=
  let caps := Text.capitals s
  all.find? fun l => l.name == caps

theorem ofText?_name (l : LogLevel) : ofText? l.name = some l := by
  cases l <;> decide

end LogLevel

/-- The `logging` section. -/
structure LoggingSection where
  level : LogLevel := .warning
  deriving DecidableEq, Repr

/-- The `tokens` section. -/
structure TokensSection where
  sample : String := "b + a"
  limit : Nat := 3
  deriving DecidableEq, Repr

/-- All settings. -/
structure Config where
  logging : LoggingSection := {}
  tokens : TokensSection := {}
  deriving DecidableEq, Repr

end MiniExpr
