import RuleCalendar.Export.Grid
import RuleCalendar.Failure
import RuleCalendar.Log
import RuleCalendar.Schedule

/-!
# Calendars of a year

A rules text and a year give a calendar: the lines that were read, the events, and the names of the
lines that are not understood. The year is a number from 2020 to 2050 in any form that can be read
as one; only what is more or less than all numbers is refused in another way.
-/

namespace RuleCalendar

/-- The number that a value stands for, if commands take it. -/
def Quantity.read (q : Quantity) (v : Value) : Except Failure Int :=
  match v.toInteger with
  | .error .infinite => .error (.number .infinite)
  | .error _ => .error (.command (.notNumber q v))
  | .ok n =>
    if q.least ≤ n ∧ n ≤ q.most then .ok n else .error (.command (.outOfRange q n))

/-- An event as a row of a report. -/
def Event.row (e : Event) : List (String × Value) :=
  let shown (s : Option String) : Value := (s.map Value.text).getD .null
  [("id", .text e.id), ("date", .text e.date.dashed), ("day", .text e.date.weekdayName),
    ("name", shown e.name), ("notes", shown e.notes)]

/-- A rules text as it is read for a year. -/
structure YearCalendar where
  /-- The year. -/
  year : Int
  /-- The lines of the rules text. -/
  lines : List RuleLine
  /-- The events and the lines that are not understood. -/
  schedule : Schedule
  deriving Repr

namespace YearCalendar

/-- The calendar of a rules text for a year. -/
def ofText (text : List Char) (year : Value) : Except Failure YearCalendar := do
  let year ← Quantity.year.read year
  let lines := RuleLine.parseAll text
  let schedule ← (Schedule.ofLines lines year).mapError .calendar
  return { year, lines, schedule }

/-- The events by date. -/
def events (c : YearCalendar) : List Event := c.schedule.events

/-- The names of the lines that are not understood. -/
def notUnderstood (c : YearCalendar) : List String :=
  (c.lines.filter fun l ↦ !l.toRule.isRecognized).map (·.name)

/-- What is told while a calendar is made. -/
def logLines (c : YearCalendar) : List LogLine :=
  let warnings := c.schedule.unknown.map fun u ↦ ⟨.warning, "prodcal.assembler", u.message⟩
  let events := c.events.length
  let lines := c.lines.length
  warnings ++
    [⟨.info, "prodcal.assembler", s!"generated {events} events from {lines} lines for {c.year}"⟩]

/-- What is told of a calendar after its events. -/
def summary (c : YearCalendar) : String :=
  let events := c.events.length
  let lines := c.lines.length
  let names := ", ".intercalate c.notUnderstood
  s!"{events} events from {lines} rules for {c.year}" ++
    if c.notUnderstood.isEmpty then "" else s!", not understood: {names}"

/-- The text grid of one month or of the whole year. -/
def grid (c : YearCalendar) (month : Option Value) (today : Option Date) :
    Except Failure (List Char) := do
  match month with
  | some month =>
    let month ← Quantity.month.read month
    (Grid.renderMonth c.year month c.events today true).mapError .calendar
  | none => (Grid.renderYear c.year c.events today).mapError .calendar

end YearCalendar

end RuleCalendar
