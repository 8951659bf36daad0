import RuleCalendar.Date.Basic

/-!
# Working days

Working days are Monday to Friday; no holidays are known. Weekdays are numbered from 0 for Monday,
and any integer stands for its remainder modulo 7. A month is given by a year and a month of any
integers, and what is wrong with them is told as soon as a date is built.
-/

namespace RuleCalendar

/-- Where a date that falls on a weekend goes. -/
inductive Shift where
  /-- It stays. -/
  | none
  /-- To the Monday after it. -/
  | nextMonday
  /-- To the first working day after it. -/
  | nextWorkingDay
  /-- To the Friday before it. -/
  | previousFriday
  deriving DecidableEq, Repr

namespace Date

/-- Saturday or Sunday. -/
def isWeekend (d : Date) : Bool := 5 ≤ d.weekday

/-- The Friday before a weekend date; a working day itself otherwise. -/
def backToFriday (d : Date) : Except CalendarError Date :=
  if d.weekday = 6 then d.addDays (-2)
  else if d.weekday = 5 then d.addDays (-1)
  else .ok d

/-- The Monday after a weekend date; a working day itself otherwise. -/
def onToMonday (d : Date) : Except CalendarError Date :=
  if d.weekday = 6 then d.addDays 1
  else if d.weekday = 5 then d.addDays 2
  else .ok d

/-- The first working day after a date. -/
def nextWorkingDay (d : Date) : Except CalendarError Date := do
  (← d.addDays 1).onToMonday

/-- A weekend date moved as the shift says; a working day is kept. -/
def shifted (d : Date) (shift : Shift) : Except CalendarError Date :=
  if d.isWeekend then
    match shift with
    | .none => .ok d
    | .previousFriday => d.backToFriday
    | .nextMonday => d.onToMonday
    | .nextWorkingDay => d.nextWorkingDay
  else .ok d

end Date

/-- The first date of a month. -/
def monthStart (year month : Int) : Except CalendarError Date := Date.of year month 1

/-- The last date of a month. -/
def monthEnd (year month : Int) : Except CalendarError Date := do
  Date.of year month (← daysInMonth year month)

/-- The first working day of a month. -/
def firstWorkingDay (year month : Int) : Except CalendarError Date := do
  (← monthStart year month).onToMonday

/-- The last working day of a month. -/
def lastWorkingDay (year month : Int) : Except CalendarError Date := do
  (← monthEnd year month).backToFriday

/-- The dates of a month, in order. -/
def datesOfMonth (year month : Int) : Except CalendarError (List Date) := do
  let first ← monthStart year month
  let days ← daysInMonth year month
  (List.range days.toNat).mapM fun (i : Nat) ↦ first.addDays i

/-- The working days of a month, in order. -/
def workingDays (year month : Int) : Except CalendarError (List Date) := do
  return (← datesOfMonth year month).filter (!·.isWeekend)

/-- The working day of a month with `n` working days before it, if there is one. -/
def nthWorkingDay (year month n : Int) : Except CalendarError (Option Date) := do
  let days ← workingDays year month
  return if 0 ≤ n then days[n.toNat]? else none

/-- The dates of a month from the first on a weekday in steps of some days. -/
def weekdaysOfMonth (year month weekday step : Int) : Except CalendarError (List Date) := do
  let start ← monthStart year month
  let first ← start.addDays ((weekday - start.weekday) % 7)
  first.walk (← monthEnd year month) step

/-- The date of a month on a weekday with `n` such dates before it, if there is one. -/
def nthWeekdayOfMonth (year month weekday n : Int) : Except CalendarError (Option Date) := do
  let days ← weekdaysOfMonth year month weekday 7
  return if 0 ≤ n then days[n.toNat]? else none

/-- The last date of a month on a weekday. -/
def lastWeekdayOfMonth (year month weekday : Int) : Except CalendarError (Option Date) := do
  return (← weekdaysOfMonth year month weekday 7).getLast?

end RuleCalendar
