import RuleCalendar.Date.Moment
import RuleCalendar.Failure
import RuleCalendar.Log
import RuleCalendar.Report.Writer

/-!
# Actions

What a command does: it reads where it runs, changes files, and writes to the standard streams. An
action ends with a result, with a failure, or because it is interrupted; what it did until then
stays done.
-/

namespace RuleCalendar

/-- Where a command runs. -/
structure World where
  /-- The environment. -/
  environment : Environment
  /-- The clock. -/
  clock : Clock
  /-- Writes the reports of the command. -/
  writer : Writer := {}

/-- What a command changes. -/
structure Session where
  /-- The files. -/
  files : FileTree := {}
  /-- What is written to the standard output. -/
  stdout : String := ""
  /-- What is written to the standard error stream. -/
  stderr : String := ""
  deriving Repr

/-- Why a command ends without a result. -/
inductive Stop where
  /-- It failed. -/
  | failure (f : Failure)
  /-- The user interrupted it, with a message if there is one. -/
  | interrupted (message : String)
  deriving Repr

/-- What a command does. -/
abbrev Action := ReaderT World (ExceptT Stop (StateM Session))

namespace Action

/-- Writes to the standard output. -/
def say (text : List Char) : Action Unit :=
  modify fun s ↦ { s with stdout := s.stdout ++ String.ofList text }

/-- Writes to the standard error stream. -/
def complain (text : List Char) : Action Unit :=
  modify fun s ↦ { s with stderr := s.stderr ++ String.ofList text }

/-- Writes a report. -/
def report (f : Writer → List Char) : Action Unit := do say (f (← read).writer)

/-- The least important level of log lines that a writer's user gets to see. -/
def shownFrom (w : Writer) : LogLevel :=
  if w.verbose then .info else if w.quiet then .error else .warning

/-- Writes a log line, if its level is important enough. -/
def log (l : LogLine) : Action Unit := do
  if (shownFrom (← read).writer).rank ≤ l.level.rank then complain (l.toText.toList ++ ['\n'])

/-- A result or a failure as an action that does nothing. -/
def ofResult {α : Type} : Except Failure α → Action α
  | .ok a => pure a
  | .error f => throw (.failure f)

/-- A result or a command error as an action that does nothing. -/
def ofCommandResult {α : Type} (x : Except CommandError α) : Action α :=
  ofResult (x.mapError .command)

/-- The action's result or failure as its result. -/
def attempt {α : Type} (act : Action α) : Action (Except Failure α) :=
  tryCatch (Except.ok <$> act) fun
    | .failure f => pure (.error f)
    | .interrupted message => throw (.interrupted message)

end Action

end RuleCalendar
