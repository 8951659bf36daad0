import RuleCalendar.Command.App
import RuleCalendar.Envelope
import RuleCalendar.Export.Request
import RuleCalendar.Rule.Description
import RuleCalendar.RulesSource
import RuleCalendar.Settings.Lookup

/-!
# The calendar program

The commands list the events of a year, show how a rule is read, print the sample rules, print text
grids, and export events to files. The year is that of the command line, or else that of the
settings, or else the year of the clock.
-/

namespace RuleCalendar.CalendarApp

/-- The text that an option is given; a list without values counts as an empty text. -/
def textOption? (o : Options) (name : String) : Option String :=
  match o.get name with
  | .scalar (.text s) => some s
  | .list _ => some ""
  | _ => none

/-- The settings that the command line asks for, or else those that are found. -/
def loadSettings (o : Options) : Action Settings := do
  let environment := (← read).environment
  let found ← Action.ofResult (Settings.find environment (← get).files (textOption? o "config"))
  (Settings.logLines environment found).forM Action.log
  Action.ofResult (Settings.ofFound environment found)

/-- The year that is given or set, or else that of the clock. -/
def chooseYear (o : Options) (settings : Settings) : Action Int := do
  let today := (← read).clock.today
  let year := match o.get "year" with
    | .scalar .null => .int (settings.year.getD today.year)
    | year => year
  Action.ofResult (Quantity.year.read year)

/-- The year that is given, if it is one that commands take. -/
def checkGivenYear (o : Options) : Action Unit := do
  match o.get "year" with
  | .scalar .null => return
  | year => let _ ← Action.ofResult (Quantity.year.read year)

/-- The rules text that is given or set. -/
def readRules (o : Options) (settings : Settings) : Action (List Char) := do
  let request : RulesRequest :=
    { text := textOption? o "text"
      path := textOption? o "rules"
      sample := (o.get "defaults").isTruthy }
  let source ← Action.ofCommandResult (RulesSource.choose request settings)
  let environment := (← read).environment
  let files := (← get).files
  if let .file path := source then
    let path ← Action.ofResult (RulesSource.locate environment files path)
    Action.log (RulesSource.readingLine path)
  return (← Action.ofResult (source.read environment files)).toList

/-- The calendar of a rules text for a year. -/
def makeCalendar (text : List Char) (year : Int) : Action YearCalendar := do
  let calendar ← Action.ofResult (YearCalendar.ofText text (.int year))
  calendar.logLines.forM Action.log
  return calendar

/-- The headers of a table of events. -/
def eventHeaders : List String := ["id", "date", "day", "name", "notes"]

/-- An event in one line. -/
def eventLine (e : Event) : List Char :=
  e.date.dashed.toList ++ [' ', ' '] ++ e.date.weekdayName.toList.take 3 ++ [' ', ' '] ++
    (e.name.getD "").toList

/-- Writes events. -/
def reportEvents (c : YearCalendar) : Action Unit := do
  match (← read).writer.format with
  | .text => Action.report fun w ↦ c.events.flatMap fun e ↦ w.line (eventLine e)
  | _ =>
    let rows : Value := .list (c.events.map fun e ↦ .record e.row)
    match (← read).writer.data rows eventHeaders with
    | .ok text => Action.say text
    | .error e => throw (.failure (.other e.message none))
  Action.report fun w ↦ w.detail c.summary.toList

/-- Lists the events of a year. -/
def generate (o : Options) : Action Value := do
  let settings ← loadSettings o
  let text ← readRules o settings
  let year ← chooseYear o settings
  let code ← Action.runPipeline (makeCalendar text year) fun c ↦ c.forM reportEvents
  return .int code

/-- Shows how a rule is read. -/
def classify (o : Options) : Action Value := do
  let text := (textOption? o "rule").getD ""
  let rule := Rule.ofText text.toList
  unless rule.isRecognized do
    Action.complain (Writer.warning ("rule not understood: ".toList ++ (o.get "rule").shown))
  match (← read).writer.mapping (.record rule.describe) with
  | .ok text => Action.say text
  | .error e => throw (.failure (.other e.message none))
  return .int 0

/-- Prints the sample rules. -/
def defaults (_ : Options) : Action Value := do
  Action.report fun w ↦ w.raw sampleText.toList
  return .int 0

/-- Prints the text grid of a month or a year. -/
def grid (o : Options) : Action Value := do
  let settings ← loadSettings o
  let text ← readRules o settings
  let year ← chooseYear o settings
  let month := match o.get "month" with
    | .scalar .null => none
    | month => some month
  let today := (← read).clock.today
  let draw : Action (List Char) := do
    let calendar ← makeCalendar text year
    Action.ofResult (calendar.grid month (some today))
  let code ← Action.runPipeline draw fun text ↦ text.forM fun t ↦ Action.report fun w ↦ w.line t
  return .int code

/-- Makes an export. -/
def makeExport (r : ExportRequest) : Action Exported := do
  let (format, calendar) ← Action.ofResult r.calendar
  calendar.logLines.forM Action.log
  let (files, outcome) := r.write format calendar (← get).files
  modify fun s ↦ { s with files }
  let exported ← Action.ofResult outcome
  Action.log (r.writtenLine format)
  return exported

/-- What is told of an export. -/
def exportLine (e : Exported) : List Char :=
  let path := e.path.toText
  (s!"Wrote {e.count} events to {path}").toList

/-- Exports the events of a year to a file. -/
def exportTo (format : ExportFormat) (o : Options) : Action Value := do
  checkGivenYear o
  let settings ← loadSettings o
  let year ← chooseYear o settings
  let text ← readRules o settings
  let path := ((textOption? o "out").filter (· ≠ "")).getD (format.usualPath year)
  let request : ExportRequest :=
    { text, year := .int year, format := format.name, path := Path.ofText path, settings
      stamp := (← read).clock.now }
  let code ← Action.runPipeline (makeExport request) fun e ↦ e.forM fun e ↦
    Action.report fun w ↦ w.line (exportLine e)
  return .int code

/-- The arguments that say where rules come from and for which year. -/
def rulesSteps : List (Step (Options → Action Value)) :=
  [.argument { flags := ["--defaults"], kind := .switch },
    .argument { flags := ["--text"] },
    .argument { flags := ["--rules"] },
    .argument { flags := ["--year"], kind := .integer }]

/-- The declaration of the commands. -/
def steps : List (Step (Options → Action Value)) :=
  rulesSteps ++ [.command "generate" generate] ++
    [.argument { flags := ["rule"] }, .command "classify" classify, .command "defaults" defaults] ++
    rulesSteps ++ [.argument { flags := ["--month"], kind := .integer }, .command "grid" grid] ++
    [.group "export"] ++
    rulesSteps ++
    [.argument { flags := ["--out"] }, .groupCommand "export" "csv" (exportTo .csv)] ++
    rulesSteps ++
    [.argument { flags := ["--out"] }, .groupCommand "export" "ics" (exportTo .ics)]

/-- The program. -/
def app : App (Options → Action Value) where
  name := "prodcal"
  version := some "0.1.0"
  registry := Registry.ofSteps steps

end RuleCalendar.CalendarApp
