import RuleCalendar.Date.WorkingDay
import RuleCalendar.Event
import RuleCalendar.Text.Blank

/-!
# Month grids

A month as a grid of weeks from Sunday to Saturday. A star marks the days that hold events and
brackets mark today; every day fills a cell of three characters. Under the grid follow the events of
the month, one a line. A grid is made of whole weeks, so that a month whose first or last week
reaches out of the calendar has none.
-/

namespace RuleCalendar.Grid

/-- The names over the columns. -/
def header : List Char := "Sun Mon Tue Wed Thu Fri Sat".toList

/-- The width of a cell. -/
def cellWidth : Nat := 3

/-- The month before a month. -/
def monthBefore (year month : Int) : Int × Int :=
  if month = 1 then (year - 1, 12) else (year, month - 1)

/-- The month after a month. -/
def monthAfter (year month : Int) : Int × Int :=
  if month = 12 then (year + 1, 1) else (year, month + 1)

/-- The weekday of the first of a month of any year, counted from Sunday. The calendar repeats every
400 years. -/
def firstColumn (year month : Int) : Int :=
  (daysBeforeYear year + daysBeforeMonth (isLeap year) month + 1) % 7

/-- The days from a Sunday to a Saturday that cover a month, each as year, month and day. -/
def coveringDays (year month : Int) : Except CalendarError (List (Int × Int × Int)) := do
  let days ← daysInMonth year month
  let before := firstColumn year month
  let after := -(before + days) % 7
  let previous := monthBefore year month
  let next := monthAfter year month
  let end' := monthLength (isLeap previous.1) previous.2
  let run (from' count : Int) (m : Int × Int) :=
    (List.range count.toNat).map fun (i : Nat) ↦ (m.1, m.2, from' + i)
  return run (end' - before + 1) before previous ++ run 1 days (year, month) ++ run 1 after next

/-- The dates from a Sunday to a Saturday that cover a month. -/
def coveringDates (year month : Int) : Except CalendarError (List Date) := do
  (← coveringDays year month).mapM fun d ↦ Date.of d.1 d.2.1 d.2.2

/-- The weeks that consecutive dates make up. -/
def weeks : List Date → List (List Date)
  | a :: b :: c :: d :: e :: f :: g :: rest => [a, b, c, d, e, f, g] :: weeks rest
  | [] => []
  | rest => [rest]

/-- What stands in the cell of a day of the month. -/
def cellText (marked : Int → Bool) (today : Option Date) (d : Date) : List Char :=
  let day := Text.integer d.day
  if today = some d then '[' :: day ++ [']']
  else if marked d.day then day ++ ['*']
  else day

/-- The cell of a date, empty if the date is not of the month. -/
def cell (month : Int) (marked : Int → Bool) (today : Option Date) (d : Date) : List Char :=
  if d.month = month then Text.padLeft cellWidth (cellText marked today d)
  else Text.spaces cellWidth

/-- The text without spaces and other blanks at its end. -/
private def trimmed (s : List Char) : List Char := Text.stripEnd s

/-- The line of a week. -/
def weekLine (month : Int) (marked : Int → Bool) (today : Option Date) (week : List Date) :
    List Char :=
  trimmed ([' '].intercalate (week.map (cell month marked today)))

/-- The line of an event under the grid. -/
def legendLine (e : Event) : List Char :=
  Text.padLeft 2 (Text.integer e.date.day) ++ [' ', ' '] ++ (e.name.getD "None").toList

/-- The events of a month of a year. -/
def eventsOfMonth (year month : Int) (events : List Event) : List Event :=
  events.filter fun e ↦ e.year == year && e.month == month

/-- The lines of the weeks of a month. -/
def weekLines (year month : Int) (events : List Event) (today : Option Date) :
    Except CalendarError (List (List Char)) := do
  let marked (day : Int) := (eventsOfMonth year month events).any fun e ↦ e.date.day == day
  return (weeks (← coveringDates year month)).map (weekLine month marked today)

/-- The lines under the grid of a month, a blank one first. -/
def legendLines (year month : Int) (events : List Event) : List (List Char) :=
  let own := eventsOfMonth year month events
  if own.isEmpty then [] else [] :: (Event.sortByDate own).map legendLine

/-- The line over a grid. -/
def titleLine (year : Int) (name : String) : List Char :=
  trimmed (Text.center header.length (name.toList ++ ' ' :: Text.integer year))

/-- The lines of a month: title, column names, weeks and, if wanted, its events. -/
def monthLines (year month : Int) (events : List Event) (today : Option Date) (legend : Bool) :
    Except CalendarError (List (List Char)) := do
  let name ← monthName month
  let weeks ← weekLines year month events today
  return titleLine year name :: header :: weeks ++
    (if legend then legendLines year month events else [])

/-- A month as text. -/
def renderMonth (year month : Int) (events : List Event) (today : Option Date) (legend : Bool) :
    Except CalendarError (List Char) := do
  return ['\n'].intercalate (← monthLines year month events today legend)

/-- The twelve months of a year as text, a blank line between them. -/
def renderYear (year : Int) (events : List Event) (today : Option Date) :
    Except CalendarError (List Char) := do
  let months ← [1, 2, 3, 4, 5, 6, 7, 8, 9, 10, 11, 12].mapM fun month ↦
    renderMonth year month events today true
  return ['\n', '\n'].intercalate months

end RuleCalendar.Grid
