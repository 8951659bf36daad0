/-!
# Log lines

What is told about the progress of an operation, with a level that decides who gets to see it.
-/

namespace RuleCalendar

/-- How much a log line matters. -/
inductive LogLevel where
  /-- Progress. -/
  | info
  /-- Something that is passed over. -/
  | warning
  /-- A failure. -/
  | error
  deriving DecidableEq, Repr

namespace LogLevel

/-- The name of a level. -/
def name : LogLevel → String
  | info => "INFO"
  | warning => "WARNING"
  | error => "ERROR"

/-- The place of a level, the least important first. -/
def rank : LogLevel → Nat
  | info => 0
  | warning => 1
  | error => 2

end LogLevel

/-- A line of a log. -/
structure LogLine where
  /-- How much the line matters. -/
  level : LogLevel
  /-- The part of the program that tells it. -/
  logger : String
  /-- What is told. -/
  message : String
  deriving DecidableEq, Repr

/-- The written form of a log line. -/
def LogLine.toText (l : LogLine) : String :=
  let level := l.level.name
  s!"{level} {l.logger}: {l.message}"

end RuleCalendar
