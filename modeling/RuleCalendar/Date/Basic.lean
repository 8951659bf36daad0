/-!
# Dates

A date of the proleptic Gregorian calendar from 1 January of year 1 to 31 December of year 9999 is
held as its day number, 1 for the first. Order, distance and weekday are arithmetic on the number;
year, month and day are read off it. A year, a month and a day of any integers give a date or the
first of them that is wrong; numbers that do not fit a machine word are refused before the others.
-/

namespace RuleCalendar

/-- Why there is no date or month to answer with. -/
inductive CalendarError where
  /-- The year of a date is not in 1 to 9999. -/
  | yearOutOfRange (year : Int)
  /-- The month of a date is not in 1 to 12. -/
  | monthOutOfRange
  /-- The month of a date does not have the day. -/
  | dayOutOfRange
  /-- A month whose length was asked for is not in 1 to 12. -/
  | noSuchMonth (month : Int)
  /-- A month whose name was asked for has none. -/
  | unnamedMonth
  /-- A step leads before the first date or after the last. -/
  | beyondCalendar
  /-- A number of a date does not fit 64 bits. -/
  | beyondLong
  /-- A number of a date is too large for 32 bits. -/
  | aboveWord
  /-- A number of a date is too small for 32 bits. -/
  | belowWord
  /-- A number of days to go does not fit 32 bits. -/
  | stepBeyondWord
  /-- A number of days to go is longer than any that is allowed. -/
  | stepTooLong (days : Int)
  /-- The number of a month whose name was asked for does not fit 64 bits. -/
  | unnamedBeyondLong
  deriving DecidableEq, Repr

/-- The text of a calendar error. -/
def CalendarError.message : CalendarError → String
  | yearOutOfRange year => s!"year {year} is out of range"
  | monthOutOfRange => "month must be in 1..12"
  | dayOutOfRange => "day is out of range for month"
  | noSuchMonth month => s!"bad month number {month}; must be 1-12"
  | unnamedMonth => "list index out of range"
  | beyondCalendar => "date value out of range"
  | beyondLong => "Python int too large to convert to C long"
  | aboveWord => "signed integer is greater than maximum"
  | belowWord => "signed integer is less than minimum"
  | stepBeyondWord => "Python int too large to convert to C int"
  | stepTooLong days => s!"days={days}; must have magnitude <= 999999999"
  | unnamedBeyondLong => "cannot fit 'int' into an index-sized integer"

/-- Whether an integer fits 32 bits. -/
def fitsWord (n : Int) : Bool := -2147483648 ≤ n && n ≤ 2147483647

/-- Whether an integer fits 64 bits. -/
def fitsLong (n : Int) : Bool := -9223372036854775808 ≤ n && n ≤ 9223372036854775807

/-- Whether a year has a 29 February. -/
def isLeap (year : Int) : Bool := year % 4 = 0 && (year % 100 != 0 || year % 400 = 0)

/-- The days of a month from 1 to 12, in a leap year or not. -/
def monthLength (leap : Bool) (month : Int) : Int :=
  if month = 2 then (if leap then 29 else 28)
  else if month = 4 ∨ month = 6 ∨ month = 9 ∨ month = 11 then 30
  else 31

/-- The days of a month of any year. -/
def daysInMonth (year month : Int) : Except CalendarError Int :=
  if 1 ≤ month ∧ month ≤ 12 then .ok (monthLength (isLeap year) month)
  else .error (.noSuchMonth month)

/-- The days that a year has before a month: thirty to a month, and what February and the months of
31 days differ by. -/
def daysBeforeMonth (leap : Bool) (month : Int) : Int :=
  (367 * month - 362) / 12 - (if month ≤ 2 then 0 else if leap then 1 else 2)

/-- The days before a year, from 1 January of year 1 on. -/
def daysBeforeYear (year : Int) : Int :=
  365 * (year - 1) + (year - 1) / 4 - (year - 1) / 100 + (year - 1) / 400

/-- A day from 1 January of year 1 to 31 December of year 9999, which has the number 3652059. -/
structure Date where
  /-- The number of the day, 1 for 1 January of year 1. -/
  number : Int
  one_le : 1 ≤ number
  le_last : number ≤ 3652059
  deriving DecidableEq, Repr

namespace Date

instance : LE Date := ⟨fun d e ↦ d.number ≤ e.number⟩

instance : LT Date := ⟨fun d e ↦ d.number < e.number⟩

instance (d e : Date) : Decidable (d ≤ e) := inferInstanceAs (Decidable (d.number ≤ e.number))

instance (d e : Date) : Decidable (d < e) := inferInstanceAs (Decidable (d.number < e.number))

/-- The year of a date: years have 365.2425 days on average, which fixes it up to one. -/
def year (d : Date) : Int :=
  let guess := 400 * (d.number + 1) / 146097
  if daysBeforeYear (guess + 1) < d.number then guess + 1 else guess

/-- The number of a date within its year, 0 for 1 January. -/
def dayOfYear (d : Date) : Int := d.number - daysBeforeYear d.year - 1

/-- The month of a date, 1 for January. -/
def month (d : Date) : Int :=
  let leap := isLeap d.year
  let gap := if d.dayOfYear < (if leap then 60 else 59) then 0 else if leap then 1 else 2
  (12 * (d.dayOfYear + gap) + 373) / 367

/-- The day of a date within its month, 1 for the first. -/
def day (d : Date) : Int := d.dayOfYear + 1 - daysBeforeMonth (isLeap d.year) d.month

/-- The weekday of a date, 0 for Monday and 6 for Sunday. -/
def weekday (d : Date) : Int := (d.number + 6) % 7

/-- The months of a year by number. -/
theorem month_cases {month : Int} (hm : 1 ≤ month ∧ month ≤ 12) :
    month = 1 ∨ month = 2 ∨ month = 3 ∨ month = 4 ∨ month = 5 ∨ month = 6 ∨ month = 7 ∨
      month = 8 ∨ month = 9 ∨ month = 10 ∨ month = 11 ∨ month = 12 := by
  omega

/-- The number that a year, a month and a day that exist lead to is the number of a date. -/
theorem number_bounds {year month day : Int} (hy : 1 ≤ year) (hy' : year ≤ 9999) (hm : 1 ≤ month)
    (hm' : month ≤ 12) (hd : 1 ≤ day) (hd' : day ≤ monthLength (isLeap year) month) :
    let n := daysBeforeYear year + daysBeforeMonth (isLeap year) month + day
    1 ≤ n ∧ n ≤ 3652059 := by
  have hleap : isLeap year = true → year % 4 = 0 ∧ (year % 100 ≠ 0 ∨ year % 400 = 0) := by
    simp [isLeap]
  have hcases := month_cases ⟨hm, hm'⟩
  simp only [daysBeforeYear]
  cases h : isLeap year <;> simp only [h] at hd' hleap ⊢ <;>
    rcases hcases with rfl | rfl | rfl | rfl | rfl | rfl | rfl | rfl | rfl | rfl | rfl | rfl <;>
    simp [monthLength, daysBeforeMonth] at hd' hleap ⊢ <;> omega

/-- What is wrong with a number of a date that does not fit 32 bits. -/
def wordError? (n : Int) : Option CalendarError :=
  if !fitsLong n then some .beyondLong
  else if fitsWord n then none
  else if n < 0 then some .belowWord
  else some .aboveWord

/-- The date with a year, a month and a day that fit 32 bits, which are tried in this order. -/
def ofWords (year month day : Int) : Except CalendarError Date :=
  if hy : 1 ≤ year ∧ year ≤ 9999 then
    if hm : 1 ≤ month ∧ month ≤ 12 then
      if hd : 1 ≤ day ∧ day ≤ monthLength (isLeap year) month then
        have h := number_bounds hy.1 hy.2 hm.1 hm.2 hd.1 hd.2
        .ok ⟨daysBeforeYear year + daysBeforeMonth (isLeap year) month + day, h.1, h.2⟩
      else .error .dayOutOfRange
    else .error .monthOutOfRange
  else .error (.yearOutOfRange year)

/-- The date with a year, a month and a day, which are tried in this order. -/
def of (year month day : Int) : Except CalendarError Date :=
  match [year, month, day].findSome? wordError? with
  | some e => .error e
  | none => ofWords year month day

/-- The date a number of days later, or earlier when the number is negative. -/
def addDays (d : Date) (days : Int) : Except CalendarError Date :=
  if h : 1 ≤ d.number + days ∧ d.number + days ≤ 3652059 then .ok ⟨d.number + days, h.1, h.2⟩
  else .error .beyondCalendar

/-- The most days of a step. -/
def longestStep : Int := 999999999

/-- What is wrong with a number of days to go at once. -/
def stepError? (days : Int) : Option CalendarError :=
  if !fitsWord days then some .stepBeyondWord
  else if longestStep < days.natAbs then some (.stepTooLong days)
  else none

/-- The dates from `first` to `last` in steps of a positive number of days. The walk looks for the
date after the last one it gives, so that there has to be one; a walk that does not move forward
never comes past `last` and runs out of dates. -/
def walk (first last : Date) (step : Int) : Except CalendarError (List Date) :=
  match stepError? step with
  | some e => .error e
  | none =>
    if 0 < step then do
      let count := ((last.number - first.number) / step + 1).toNat
      let _ ← first.addDays (count * step)
      (List.range count).mapM fun (i : Nat) ↦ first.addDays (i * step)
    else .error .beyondCalendar

end Date

end RuleCalendar
