import RuleCalendar.Date.Moment
import RuleCalendar.Event

/-!
# iCalendar export

A calendar of all-day events by RFC 5545, each with an alarm some days before. Content lines end in
a carriage return and a line feed and are folded so that none has more than 75 octets; a line that
continues another begins with a space. Backslashes, semicolons, commas and line feeds of a text
value are escaped, and carriage returns are left out.
-/

namespace RuleCalendar.ICalendar

/-- The most octets of a line, its end not counted. -/
def mostOctets : Nat := 75

/-- What one character of a text value is written as. -/
def escapeChar (c : Char) : List Char :=
  if c = '\\' ∨ c = ';' ∨ c = ',' then ['\\', c]
  else if c = '\n' then ['\\', 'n']
  else if c = '\r' then []
  else [c]

/-- The written form of a text value. -/
def escape (s : List Char) : List Char := s.flatMap escapeChar

/-- The number of octets of a text. -/
def octets : List Char → Nat
  | [] => 0
  | c :: rest => c.utf8Size + octets rest

/-- The pieces that a line is folded into, when `current` is the piece in the making, last character
first, and `limit` its most octets. Later pieces have one octet less, for the space before them. -/
def pieces (limit : Nat) (current : List Char) : List Char → List (List Char)
  | [] => [current.reverse]
  | c :: rest =>
    if octets current + c.utf8Size ≤ limit then pieces limit (c :: current) rest
    else current.reverse :: pieces (mostOctets - 1) [c] rest

/-- The lines that a content line is written as. -/
def foldPieces (line : List Char) : List (List Char) := pieces mostOctets [] line

/-- The written form of a content line, without the end of its last line. -/
def fold (line : List Char) : List Char := ['\r', '\n', ' '].intercalate (foldPieces line)

/-- What is set for a calendar as a whole. -/
structure Options where
  /-- When the calendar was made. -/
  stamp : Moment
  /-- The name of the calendar; one with the year if there is none. -/
  calendarName : Option String := none
  /-- How many days before an event its alarm goes off; no alarm if not positive. -/
  reminderDays : Int := 1
  /-- What the ids of the events end in. -/
  uidDomain : String := "business-calendar.com"
  /-- The product that made the calendar. -/
  prodid : String := "-//Business Calendar Generator//EN"
  deriving Repr

private def nameText (e : Event) : List Char := escape (e.name.getD "").toList

/-- When an alarm says that its event is. -/
def whenText (days : Int) : String := if days = 1 then "tomorrow" else s!"in {days} days"

/-- The content lines of an alarm. -/
def alarmLines (e : Event) (days : Int) : List (List Char) :=
  ["BEGIN:VALARM".toList,
    s!"TRIGGER:-P{days}D".toList,
    "ACTION:DISPLAY".toList,
    "DESCRIPTION:Reminder: ".toList ++ nameText e ++ " is ".toList ++ (whenText days).toList,
    "END:VALARM".toList]

/-- What tells an event from all others: its id and its day, at a domain. -/
def uid (domain : String) (e : Event) : List Char :=
  e.id.toList ++ '-' :: e.date.compact.toList ++ '@' :: domain.toList

/-- The content lines of an event. -/
def eventLines (options : Options) (e : Event) : Except CalendarError (List (List Char)) := do
  let day := e.date.compact.toList
  let next := (← e.date.addDays 1).compact.toList
  let notes := (e.notes.getD "").toList
  return [
      "BEGIN:VEVENT".toList,
      "UID:".toList ++ uid options.uidDomain e,
      "DTSTAMP:".toList ++ options.stamp.compact.toList,
      "DTSTART;VALUE=DATE:".toList ++ day,
      "DTEND;VALUE=DATE:".toList ++ next,
      "SUMMARY:".toList ++ nameText e] ++
    (if notes.isEmpty then [] else ["DESCRIPTION:".toList ++ escape notes]) ++
    ["STATUS:CONFIRMED".toList, "TRANSP:TRANSPARENT".toList,
      "CATEGORIES:Business,Deadline".toList] ++
    (if 0 < options.reminderDays then alarmLines e options.reminderDays else []) ++
    ["END:VEVENT".toList]

/-- The name that a calendar is given. -/
def calendarName (options : Options) (year : Int) : String :=
  match options.calendarName.filter (!·.isEmpty) with
  | some name => name
  | none => s!"Business Calendar {year}"

/-- The content lines of a calendar. -/
def contentLines (options : Options) (year : Int) (events : List Event) :
    Except CalendarError (List (List Char)) := do
  let body ← events.mapM (eventLines options)
  return [
      "BEGIN:VCALENDAR".toList,
      "VERSION:2.0".toList,
      "PRODID:".toList ++ options.prodid.toList,
      "CALSCALE:GREGORIAN".toList,
      "METHOD:PUBLISH".toList,
      "X-WR-CALNAME:".toList ++ escape (calendarName options year).toList,
      s!"X-WR-CALDESC:Business events and important dates for {year}".toList] ++
    body.flatten ++ ["END:VCALENDAR".toList]

/-- The events as a calendar, in their order. -/
def render (options : Options) (year : Int) (events : List Event) :
    Except CalendarError (List Char) := do
  return (← contentLines options year events).flatMap fun l ↦ fold l ++ ['\r', '\n']

end RuleCalendar.ICalendar
