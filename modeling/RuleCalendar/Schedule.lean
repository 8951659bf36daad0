import RuleCalendar.Event
import RuleCalendar.Rule.Dates
import RuleCalendar.Rule.Table
import RuleCalendar.RuleLine
import RuleCalendar.Text.Quoted

/-!
# The events of a year

The lines of a rules text give the events of a year. Events are found by going through the months,
within a month through the lines, and within a line through its dates; they are then sorted by date,
and events of one day keep the order in which they were found. An event's id is the number of its
line, the month in which it was found and, where a line can have several dates in a month, the day.
A line that is not understood is visited as often as the others, and named the first time.
-/

namespace RuleCalendar

/-- A line whose rule text is not understood. -/
structure UnknownRule where
  /-- The name on the line. -/
  name : String
  /-- The rule text on the line. -/
  rule : String
  deriving DecidableEq, Repr

/-- The text of a warning about a line that is not understood. -/
def UnknownRule.message (u : UnknownRule) : String :=
  let name := String.ofList (Text.quoted u.name.toList)
  let rule := String.ofList (Text.quoted u.rule.toList)
  s!"unrecognized rule for {name}: {rule}"

/-- The events of a year and the lines that gave none because they are not understood. -/
structure Schedule where
  /-- The events by date. -/
  events : List Event
  /-- The lines that are not understood, in their order. -/
  unknown : List UnknownRule
  deriving DecidableEq, Repr

namespace RuleLine

/-- The rule of a line. -/
def toRule (l : RuleLine) : Rule := Rule.ofText l.rule.toList

end RuleLine

namespace Schedule

/-- The id of the event of a line on a day that was found in a month. -/
def eventId (line : Nat) (month day : Int) (multi : Bool) : String :=
  if multi then s!"{line}-{month}-{day}" else s!"{line}-{month}"

/-- The event of a line on a date that was found in a month. -/
def eventOn (index : Nat) (line : RuleLine) (rule : Rule) (month : Int) (d : Date) : Event where
  id := eventId index month d.day rule.isMulti
  name := some line.name
  date := d
  notes := some line.notes

/-- The events of one line in one month. -/
def eventsOf (index : Nat) (line : RuleLine) (rule : Rule) (year month : Int) :
    Except CalendarError (List Event) := do
  return (← rule.datesIn year month).map (eventOn index line rule month)

/-- The months of a year. -/
def months : List Int := [1, 2, 3, 4, 5, 6, 7, 8, 9, 10, 11, 12]

/-- What a search for the events of a year has come to. -/
structure Search where
  /-- The events, in the order in which they were found. -/
  events : List Event := []
  /-- The numbers of the lines that were named as not understood. -/
  named : List Nat := []
  /-- The lines that were named, in the order in which they were. -/
  unknown : List UnknownRule := []
  deriving Repr

/-- The search after a line is visited in a month. -/
def Search.visit (year month : Int) (s : Search) (l : Nat × RuleLine × Rule) :
    Except CalendarError Search :=
  let (index, line, rule) := l
  if rule.isRecognized then do
    let events ← eventsOf index line rule year month
    return { s with events := s.events ++ events }
  else if index ∈ s.named then return s
  else return { s with
    named := s.named ++ [index]
    unknown := s.unknown ++ [⟨line.name, line.rule⟩] }

/-- The lines with their numbers and rules. -/
def ruled (lines : List RuleLine) : List (Nat × RuleLine × Rule) :=
  lines.zipIdx.map fun l ↦ (l.2, l.1, l.1.toRule)

/-- The search for the events of a year. -/
def search (lines : List RuleLine) (year : Int) : Except CalendarError Search :=
  months.foldlM (fun s month ↦ (ruled lines).foldlM (Search.visit year month) s) {}

/-- The events that lines give for a year. -/
def ofLines (lines : List RuleLine) (year : Int) : Except CalendarError Schedule := do
  let s ← search lines year
  return { events := Event.sortByDate s.events, unknown := s.unknown }

/-- The events that a rules text gives for a year. -/
def ofText (text : List Char) (year : Int) : Except CalendarError Schedule :=
  ofLines (RuleLine.parseAll text) year

end Schedule

end RuleCalendar
