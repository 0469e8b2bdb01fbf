/-
Log records: what the library says about its work, and to whom it shows.

A record shows at a level if it is at least as serious.
-/
import PocketScheme.Log.Level

namespace PocketScheme.Log

/-- A message, its level, and the part of the library that it is from. -/
structure Record where
  level : Level
  origin : String
  message : List Char
  deriving DecidableEq, Repr

namespace Record

/-- The line that shows a record. -/
def line (record : Record) : List Char :=
  record.level.name.toList ++ [' '] ++ record.origin.toList ++ [':', ' '] ++ record.message
    ++ ['\n']

end Record

/-- The records that are at least as serious as a level, in order. -/
def atLeast (level : Level) (records : List Record) : List Record :=
  records.filter fun record => level.severity ≤ record.level.severity

/-- The lines of the records that show at a level. -/
def shown (level : Level) (records : List Record) : List Char :=
  (atLeast level records).flatMap Record.line

end PocketScheme.Log
