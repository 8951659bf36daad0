import RuleCalendar.Date.Names

/-!
# Events

An event is one date of a named recurrence. Its month and year are those of its date; whoever gives
them separately has to give the same.
-/

namespace RuleCalendar

/-- One date of a recurrence. -/
structure Event where
  /-- What tells the event from the others of its calendar. -/
  id : String
  /-- What recurs. -/
  name : Option String
  /-- The day of the event. -/
  date : Date
  /-- A note to the event. -/
  notes : Option String
  deriving DecidableEq, Repr

/-- A month or year given for an event that is not that of its date. -/
structure EventMismatch where
  /-- The event's id. -/
  id : String
  /-- The event's date. -/
  date : Date
  deriving DecidableEq, Repr

/-- The text of a mismatch. -/
def EventMismatch.message (m : EventMismatch) : String :=
  let day := m.date.iso
  let id := m.id
  s!"event {id}: month/year do not match {day}"

namespace Event

/-- The month of an event. -/
def month (e : Event) : Int := e.date.month

/-- The year of an event. -/
def year (e : Event) : Int := e.date.year

/-- The event, if a month and a year given for it are those of its date. -/
def checked (e : Event) (month year : Int) : Except EventMismatch Event :=
  if month = e.month ∧ year = e.year then .ok e else .error ⟨e.id, e.date⟩

/-- The events in the order of their dates; those of one day keep their order. -/
def sortByDate (events : List Event) : List Event :=
  events.mergeSort fun e f ↦ decide (e.date ≤ f.date)

/-- The events grouped by a key, in the order of the keys and within a group in their own. -/
def groupBy (key : Event → Int) (keys : List Int) (events : List Event) :
    List (Int × List Event) :=
  (keys.map fun k ↦ (k, events.filter fun e ↦ key e == k)).filter fun g ↦ !g.2.isEmpty

/-- The numbers from 1 to `last`. -/
private def upTo (last : Nat) : List Int := (List.range last).map fun (i : Nat) ↦ (i : Int) + 1

/-- The events of each month that has any, by month. -/
def byMonth (events : List Event) : List (Int × List Event) := groupBy month (upTo 12) events

/-- The events of each day that has any, by month and day, whatever their years. -/
def byDay (events : List Event) : List (Int × List (Int × List Event)) :=
  (byMonth events).map fun g ↦ (g.1, groupBy (·.date.day) (upTo 31) g.2)

end Event

end RuleCalendar
