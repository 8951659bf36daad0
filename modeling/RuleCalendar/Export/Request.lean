import RuleCalendar.Export.Csv
import RuleCalendar.Settings.Basic
import RuleCalendar.YearCalendar

/-!
# Exports to files

The events of a rules text for a year are written to one file, as CSV or as an iCalendar document.
Everything that can go wrong with the request does so before the first directory is made; the file
itself is written last.
-/

namespace RuleCalendar

/-- What a file of events is written as. -/
inductive ExportFormat where
  /-- Comma-separated values. -/
  | csv
  /-- An iCalendar document. -/
  | ics
  deriving DecidableEq, Repr

namespace ExportFormat

/-- All formats. -/
def all : List ExportFormat := [csv, ics]

/-- The name of a format. -/
def name : ExportFormat → String
  | csv => "csv"
  | ics => "ics"

/-- The format of a name. -/
def ofName? (name : String) : Option ExportFormat := all.find? fun f ↦ f.name = name

/-- The path to which a format is written if no other is given. -/
def usualPath (f : ExportFormat) (year : Int) : String :=
  match f with
  | csv => s!"calendar-{year}.csv"
  | ics => s!"business-calendar-{year}.ics"

end ExportFormat

/-- An export that is asked for. -/
structure ExportRequest where
  /-- The rules text. -/
  text : List Char
  /-- The year. -/
  year : Value
  /-- The name of the format. -/
  format : String
  /-- Where the file is to be. -/
  path : Path
  /-- What the user has set. -/
  settings : Settings
  /-- When the export is made. -/
  stamp : Moment

/-- An export that is made. -/
structure Exported where
  /-- Where the file is. -/
  path : Path
  /-- What it is written as. -/
  format : ExportFormat
  /-- How many events it holds. -/
  count : Nat
  deriving Repr

/-- The directory of a file made where it is missing and the file written, and what went wrong. -/
def FileTree.save (t : FileTree) (path : Path) (content : List Char) :
    FileTree × Except FileError Unit :=
  match t.ensureDirectories path.parent with
  | (t, .error e) => (t, .error e)
  | (t, .ok ()) =>
    match t.write path.toText (Utf8.encode content) with
    | .ok t => (t, .ok ())
    | .error e => (t, .error e)

namespace ExportRequest

/-- The format that is asked for and the calendar to export. -/
def calendar (r : ExportRequest) : Except Failure (ExportFormat × YearCalendar) := do
  match ExportFormat.ofName? r.format with
  | none => throw (.command (.unknownFormat r.format))
  | some format => return (format, ← YearCalendar.ofText r.text r.year)

/-- A calendar in a format. -/
def render (r : ExportRequest) (format : ExportFormat) (c : YearCalendar) :
    Except CalendarError (List Char) :=
  match format with
  | .csv => .ok (Csv.render c.events)
  | .ics => ICalendar.render (r.settings.calendarOptions r.stamp) c.year c.events

/-- What is told after a file is written. -/
def writtenLine (r : ExportRequest) (format : ExportFormat) : LogLine :=
  let name := format.name
  let path := r.path.toText
  ⟨.info, "prodcal.pipeline", s!"wrote {name} export to {path}"⟩

/-- A calendar written to the file in a format. -/
def write (r : ExportRequest) (format : ExportFormat) (c : YearCalendar) (t : FileTree) :
    FileTree × Except Failure Exported :=
  match r.render format c with
  | .error e => (t, .error (.calendar e))
  | .ok content =>
    match t.save r.path content with
    | (t, .error e) => (t, .error (.file e))
    | (t, .ok ()) => (t, .ok ⟨r.path, format, c.events.length⟩)

/-- The export made in a file tree. -/
def run (r : ExportRequest) (t : FileTree) : FileTree × Except Failure Exported :=
  match r.calendar with
  | .error f => (t, .error f)
  | .ok (format, c) => r.write format c t

end ExportRequest

end RuleCalendar
