/-
Levels of log records, and the setting that chooses one.

A setting names a level in any letter case and between any blanks; one
that names none leaves the level at warnings.
-/
import PocketScheme.Text.Blank
import PocketScheme.Text.Capital

namespace PocketScheme.Log

open Text

/-- How serious a record is. -/
inductive Level where
  | debug
  | info
  | warning
  | error
  | critical
  deriving DecidableEq, Repr

namespace Level

/-- The number of a level; more serious ones have greater numbers. -/
def severity : Level → Nat
  | debug => 10
  | info => 20
  | warning => 30
  | error => 40
  | critical => 50

/-- The name of a level. -/
def name : Level → String
  | debug => "DEBUG"
  | info => "INFO"
  | warning => "WARNING"
  | error => "ERROR"
  | critical => "CRITICAL"

/-- Every level, once. -/
def all : List Level := [debug, info, warning, error, critical]

/-- The level that a setting chooses, which may be missing. -/
def ofSetting (setting : Option String) : Level :=
  let word := (strip (setting.getD "").toList).flatMap capital
  (all.find? fun level => level.name.toList = word).getD warning

end Level

end PocketScheme.Log
