import RuleCalendar.Event
import RuleCalendar.Text.Blank

/-!
# Comma-separated export

One record of a header and one per event, separated by line feeds. The fields of an event stand
between double quotes, and a double quote inside a field is written twice. The text is first written
with a line feed after every record; the line feeds at its end are then taken off.
-/

namespace RuleCalendar.Csv

/-- The names of the columns. -/
def columns : List String := ["Month", "Date", "Day", "Event Name", "Notes"]

/-- The header record. -/
def header : List Char := [','].intercalate (columns.map String.toList)

/-- A field between quotes. -/
def field (s : List Char) : List Char :=
  '"' :: (s.flatMap fun c ↦ if c = '"' then ['"', '"'] else [c]) ++ ['"']

/-- The fields of an event: month, date, weekday, name and note. -/
def fields (e : Event) : List (List Char) :=
  [(monthNames.getD (e.month - 1).toNat "").capitalize.toList, e.date.dashed.toList,
    e.date.weekdayName.toList, (e.name.getD "").toList, (e.notes.getD "").toList]

/-- The record of an event. -/
def record (e : Event) : List Char := [','].intercalate ((fields e).map field)

/-- The records of the header and of the events, by date, each with a line feed after it. -/
def written (events : List Event) : List Char :=
  (header :: (Event.sortByDate events).map record).flatMap (· ++ ['\n'])

/-- The events as comma-separated text. -/
def render (events : List Event) : List Char := Text.trimFinalBreaks (written events)

end RuleCalendar.Csv
