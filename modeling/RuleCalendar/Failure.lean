import RuleCalendar.Files.Home
import RuleCalendar.Files.Tree
import RuleCalendar.Text.Utf8
import RuleCalendar.Value.Show
import RuleCalendar.Yaml.Fault

/-!
# Failures

A command error is meant for the user: it has a text, perhaps a hint, and a kind that decides the
exit code. A failure is a command error or any other reason for which an operation gives no result.
-/

namespace RuleCalendar

/-- A number that commands take. -/
inductive Quantity where
  /-- The year of a calendar. -/
  | year
  /-- A month of it. -/
  | month
  deriving DecidableEq, Repr

namespace Quantity

/-- The name within a sentence. -/
def name : Quantity → String
  | year => "year"
  | month => "month"

/-- The name at the beginning of a sentence. -/
def title : Quantity → String
  | year => "Year"
  | month => "Month"

/-- The least number that commands take. -/
def least : Quantity → Int
  | year => 2020
  | month => 1

/-- The greatest number that commands take. -/
def most : Quantity → Int
  | year => 2050
  | month => 12

/-- What is said to the user of a number out of range. -/
def hint : Quantity → String
  | year => "Use a year between 2020 and 2050."
  | month => "Use 1-12."

end Quantity

/-- The kinds of command errors. -/
inductive ErrorKind where
  /-- Any other error. -/
  | general
  /-- A wrong argument, or arguments that exclude each other. -/
  | usage
  /-- Settings that cannot be read or hold wrong values. -/
  | settings
  /-- Something that is not there. -/
  | notFound
  deriving DecidableEq, Repr

/-- The exit code that an error of a kind ends in. -/
def ErrorKind.exitCode : ErrorKind → Int
  | general => 1
  | usage => 2
  | settings => 3
  | notFound => 6

/-- An error meant for the user. -/
inductive CommandError where
  /-- More than one source of rules is given. -/
  | conflictingSources
  /-- A value stands for no number. -/
  | notNumber (what : Quantity) (given : Value)
  /-- A number is not one that commands take. -/
  | outOfRange (what : Quantity) (number : Int)
  /-- There is no export of this name. -/
  | unknownFormat (name : String)
  /-- The settings file that was asked for is not there. -/
  | settingsMissing (path : String)
  /-- The settings file cannot be read. -/
  | settingsUnreadable (path reason : String)
  /-- The settings file is not well formed. -/
  | settingsMalformed (path reason : String)
  /-- The settings file holds something else than a mapping. -/
  | settingsNotMapping (path : String)
  /-- A setting is of the wrong kind. -/
  | settingKind (source key expected given : String)
  /-- The number of days before an alarm is negative. -/
  | negativeReminder (source : String)
  /-- The rules file is not there. -/
  | rulesMissing (path : String)
  /-- Any other error. -/
  | other (kind : ErrorKind) (message : String) (hint : Option String)
  deriving Repr

namespace CommandError

/-- The text of an error. -/
def message : CommandError → String
  | conflictingSources => "Use only one of --text, --rules, --defaults"
  | notNumber what given =>
    let name := what.name
    let shown := String.ofList given.quoted
    s!"Invalid {name}: {shown}"
  | outOfRange what number =>
    let title := what.title
    s!"{title} {number} out of range"
  | unknownFormat name => s!"Unknown export format: {name}"
  | settingsMissing path => s!"Config file not found: {path}"
  | settingsUnreadable path reason => s!"Cannot read config {path}: {reason}"
  | settingsMalformed path reason => s!"Invalid YAML in {path}: {reason}"
  | settingsNotMapping path => s!"{path}: top level must be a mapping"
  | settingKind source key expected given =>
    s!"{source}: '{key}' must be {expected}, got {given}"
  | negativeReminder source => s!"{source}: 'reminder_days' must be >= 0"
  | rulesMissing path => s!"Rules file not found: {path}"
  | other _ message _ => message

/-- What else is said to the user. -/
def hint : CommandError → Option String
  | outOfRange what _ => some what.hint
  | settingKind .. => some "Fix the value or remove the key to use the default."
  | rulesMissing _ => some "Pass --rules PATH or --defaults."
  | other _ _ hint => hint
  | _ => none

/-- The kind of an error. -/
def kind : CommandError → ErrorKind
  | conflictingSources | notNumber .. | outOfRange .. | unknownFormat _ => .usage
  | settingsMissing _ | settingsUnreadable .. | settingsMalformed .. | settingsNotMapping _
  | settingKind .. | negativeReminder _ => .settings
  | rulesMissing _ => .notFound
  | other kind .. => kind

/-- The exit code that an error ends in. -/
def exitCode (e : CommandError) : Int := e.kind.exitCode

end CommandError

/-- Why an operation gives no result. -/
inductive Failure where
  /-- An error meant for the user. -/
  | command (e : CommandError)
  /-- A date outside the calendar. -/
  | calendar (e : CalendarError)
  /-- A path that cannot be used. -/
  | file (e : FileError)
  /-- Bytes that are no text. -/
  | encoding (e : Utf8Error)
  /-- A text that is no document. -/
  | document (e : Yaml.ReadError)
  /-- A value that stands for no integer. -/
  | number (e : NumberError)
  /-- A home directory that is not found. -/
  | home (e : HomeError)
  /-- An operation that is not there. -/
  | unimplemented
  /-- A key that is looked for in vain, with a code if the failure carries one. -/
  | missingKey (key : String) (code : Option Value)
  /-- Anything else, with a code if the failure carries one. -/
  | other (message : String) (code : Option Value)
  deriving Repr

namespace Failure

/-- The text of a failure. -/
def message : Failure → String
  | command e => e.message
  | calendar e => e.message
  | file e => e.message
  | encoding e => e.message
  | document e => e.message
  | number e => e.message
  | home e => e.message
  | unimplemented => ""
  | missingKey key _ => String.ofList (Text.quoted key.toList)
  | other message _ => message

/-- The code that a failure carries, if it is an integer or a truth value. -/
def code? : Failure → Option Int
  | command e => some e.exitCode
  | missingKey _ code | other _ code => code.bind Value.integer?
  | _ => none

end Failure

end RuleCalendar
