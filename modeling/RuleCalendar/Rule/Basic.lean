import RuleCalendar.Date.WorkingDay

/-!
# Recurrence rules

A rule is what is understood of a rule text: its family and the parameters that go with it. Each
family reads the parameters that it needs and does not look at the others.
-/

namespace RuleCalendar

/-- The kinds of recurrence. -/
inductive Family where
  /-- Every day of the month. -/
  | daily
  /-- Once a week. -/
  | weekly
  /-- Once a month. -/
  | monthly
  /-- Every occurrence of one named weekday. -/
  | weekday
  /-- Every other week, counted anew in each month. -/
  | biweekly
  /-- Once in the first month of each quarter. -/
  | quarterly
  /-- Once in January and once in July. -/
  | semiannual
  /-- Once a year. -/
  | annual
  /-- On the last day of each month. -/
  | endOfMonth
  /-- On a weekday of a given rank in the month. -/
  | ordinalWeekday
  /-- On one working day of the month, or on all. -/
  | businessDay
  /-- On a day number, in some months or in all. -/
  | singleDate
  /-- Not understood. -/
  | unrecognized
  deriving DecidableEq, Repr

/-- Where the date of a month lies. -/
inductive Anchor where
  /-- On a day number. -/
  | day
  /-- On the last day. -/
  | lastDay
  /-- On the first working day. -/
  | firstWorkingDay
  /-- On the last working day. -/
  | lastWorkingDay
  /-- On the working day of a given rank. -/
  | nthWorkingDay
  /-- On every working day. -/
  | everyWorkingDay
  /-- On the weekday of a given rank. -/
  | ordinalWeekday
  deriving DecidableEq, Repr

namespace Family

/-- Every family. -/
def all : List Family :=
  [daily, weekly, monthly, weekday, biweekly, quarterly, semiannual, annual, endOfMonth,
    ordinalWeekday, businessDay, singleDate, unrecognized]

/-- The written name of a family. -/
def name : Family → String
  | daily => "daily"
  | weekly => "weekly"
  | monthly => "monthly"
  | weekday => "weekday"
  | biweekly => "biweekly"
  | quarterly => "quarterly"
  | semiannual => "semiannual"
  | annual => "annual"
  | endOfMonth => "end_of_month"
  | ordinalWeekday => "ordinal_weekday"
  | businessDay => "business_day"
  | singleDate => "single_date"
  | unrecognized => "unrecognized"

/-- The family with a written name. -/
def ofName? (name : String) : Option Family := all.find? (·.name = name)

/-- Whether rules of the family can have several dates in a month. -/
def isMulti : Family → Bool
  | daily | weekly | weekday | biweekly => true
  | _ => false

end Family

namespace Anchor

/-- Every anchor. -/
def all : List Anchor :=
  [day, lastDay, firstWorkingDay, lastWorkingDay, nthWorkingDay, everyWorkingDay, ordinalWeekday]

/-- The written name of an anchor. -/
def name : Anchor → String
  | day => "day"
  | lastDay => "last_day"
  | firstWorkingDay => "first_working_day"
  | lastWorkingDay => "last_working_day"
  | nthWorkingDay => "nth_working_day"
  | everyWorkingDay => "every_working_day"
  | ordinalWeekday => "ordinal_weekday"

/-- The anchor with a written name. -/
def ofName? (name : String) : Option Anchor := all.find? (·.name = name)

end Anchor

namespace Shift

/-- Every shift. -/
def all : List Shift := [none, nextMonday, nextWorkingDay, previousFriday]

/-- The written name of a shift. -/
def name : Shift → String
  | none => "no_shift"
  | nextMonday => "next_monday"
  | nextWorkingDay => "next_working_day"
  | previousFriday => "previous_friday"

/-- The shift with a written name. -/
def ofName? (name : String) : Option Shift := all.find? (·.name = name)

end Shift

/-- What is understood of a rule text. -/
structure Rule where
  /-- The kind of recurrence. -/
  family : Family
  /-- The name of the entry that understood the text, empty if none did. -/
  pattern : String := ""
  /-- Where the date of a month lies, for families with one date a month. -/
  anchor : Option Anchor := none
  /-- A weekday, 0 for Monday. -/
  weekday : Option Int := none
  /-- A day number. -/
  day : Option Int := none
  /-- A rank, 0 for the first and -1 for the last. -/
  ordinal : Option Int := none
  /-- The month that the text names. -/
  month : Option Int := none
  /-- The only year that the rule has dates in. -/
  year : Option Int := none
  /-- The only months that the rule has dates in; every month if empty. -/
  months : List Int := []
  /-- Where a date on a weekend goes. -/
  shift : Shift := .none
  /-- Whether a daily rule leaves weekends out. -/
  excludeWeekends : Bool := false
  deriving DecidableEq, Repr

namespace Rule

/-- The rule of a text that is not understood. -/
def unrecognized : Rule where family := .unrecognized

/-- Whether the text was understood. -/
def isRecognized (r : Rule) : Bool := r.family != .unrecognized

/-- Whether the rule may have dates in a month. -/
def appliesTo (r : Rule) (month : Int) : Bool := r.months.isEmpty || r.months.contains month

/-- Whether one month can hold several dates of the rule. -/
def isMulti (r : Rule) : Bool := r.family.isMulti || r.anchor == some .everyWorkingDay

end Rule

end RuleCalendar
