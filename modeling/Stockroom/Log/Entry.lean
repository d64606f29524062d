import Stockroom.Text.Basic

/-!
Entries of the log: a level, a message and attributes in the order in which they were given.

Main definitions: `LogLevel`, `LogLevel.name`, `LogEntry`, `LogEntry.line`.
-/
namespace Stockroom
set_option autoImplicit false

/-- How important an entry is. The named levels are four apart, so that others fit between them. -/
abbrev LogLevel := Int

namespace LogLevel

def debug : LogLevel := -4
def info : LogLevel := 0
def warn : LogLevel := 4
def error : LogLevel := 8

/-- A name and the distance to its level, if there is one. -/
def offsetName (base : Text) (distance : Int) : Text :=
  if distance = 0 then base
  else if 0 < distance then base ++ [.char '+'] ++ Text.ofInt distance
  else base ++ Text.ofInt distance

/-- The name of a level: that of the next named level below it, with the distance. -/
def name (level : LogLevel) : Text :=
  if level < info then offsetName "DEBUG" (level - debug)
  else if level < warn then offsetName "INFO" (level - info)
  else if level < error then offsetName "WARN" (level - warn)
  else offsetName "ERROR" (level - error)

end LogLevel

/-- An entry of the log. -/
structure LogEntry where
  level : LogLevel
  message : Text
  attributes : List (Text × Text) := []
  deriving DecidableEq, Repr

namespace LogEntry

/-- Level, message and attributes on one line, nothing quoted. -/
def line (e : LogEntry) : Text :=
  Text.join [.char ' '] (e.level.name :: e.message ::
    e.attributes.map fun (key, value) => key ++ [.char '='] ++ value)

end LogEntry
end Stockroom
