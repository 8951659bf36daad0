import RuleCalendar.Rule.Basic

/-!
# The dates of a rule

The dates that a rule has in one month of one year. Rules that recur within a month walk through it;
the others find their place in it, in the months and the year that they are limited to. A weekend
shift may carry a date into a neighbouring month.
-/

namespace RuleCalendar.Rule

/-- The date of a month with a day number, moved off a weekend, if the month has the day. -/
def dayDate? (year month : Int) (day : Option Int) (shift : Shift) :
    Except CalendarError (Option Date) := do
  match day.filter (1 ≤ ·) with
  | none => return none
  | some day =>
    if day ≤ (← daysInMonth year month) then
      return some (← (← Date.of year month day).shifted shift)
    else return none

/-- The dates of a month at the rule's anchor, whatever months and year the rule is limited to. A
missing anchor stands for a day number, a missing rank for the first, and a missing weekday for
Monday. -/
def anchoredDates (r : Rule) (year month : Int) : Except CalendarError (List Date) := do
  match r.anchor.getD .day with
  | .everyWorkingDay => workingDays year month
  | .firstWorkingDay => return [← firstWorkingDay year month]
  | .lastWorkingDay => return [← lastWorkingDay year month]
  | .lastDay => return [← monthEnd year month]
  | .nthWorkingDay => return (← nthWorkingDay year month (r.ordinal.getD 0)).toList
  | .ordinalWeekday =>
    let weekday := r.weekday.getD 0
    if r.ordinal = some (-1) then return (← lastWeekdayOfMonth year month weekday).toList
    else return (← nthWeekdayOfMonth year month weekday (r.ordinal.getD 0)).toList
  | .day => return (← dayDate? year month r.day r.shift).toList

/-- Whether the rule may have dates in a month of a year. -/
def coversMonth (r : Rule) (year month : Int) : Bool :=
  r.appliesTo month && (r.year.all fun y ↦ y == year)

/-- The dates of a rule in a month of a year, in order. -/
def datesIn (r : Rule) (year month : Int) : Except CalendarError (List Date) := do
  match r.family with
  | .daily =>
    let days ← (← monthStart year month).walk (← monthEnd year month) 1
    return days.filter fun d ↦ !(r.excludeWeekends && d.isWeekend)
  | .weekly | .weekday => weekdaysOfMonth year month (r.weekday.getD 0) 7
  | .biweekly => weekdaysOfMonth year month (r.weekday.getD 0) 14
  | .unrecognized => return []
  | _ => if r.coversMonth year month then r.anchoredDates year month else return []

end RuleCalendar.Rule
