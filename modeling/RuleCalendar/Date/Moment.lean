import RuleCalendar.Date.Names

/-!
# Times

A time is a date and a time of day, in universal time. A clock tells it together with the date that
the user's calendar shows, which near midnight is that of another day.
-/

namespace RuleCalendar

/-- A date and a time of day. -/
structure Moment where
  /-- The day. -/
  date : Date
  /-- The hour, 0 to 23. -/
  hour : Nat
  /-- The minute, 0 to 59. -/
  minute : Nat
  /-- The second, 0 to 59. -/
  second : Nat
  deriving DecidableEq, Repr

namespace Moment

/-- The time a number of seconds after the beginning of 1970. -/
def ofSeconds (seconds : Int) : Except CalendarError Moment := do
  let date ← (← Date.of 1970 1 1).addDays (seconds / 86400)
  let rest := (seconds % 86400).toNat
  return ⟨date, rest / 3600, rest / 60 % 60, rest % 60⟩

/-- The date and the time without marks, as a point in universal time. -/
def compact (m : Moment) : String :=
  m.date.compact ++ String.ofList ('T' :: Text.zeroPadded 2 m.hour ++
    Text.zeroPadded 2 m.minute ++ Text.zeroPadded 2 m.second ++ ['Z'])

end Moment

/-- What a clock tells. -/
structure Clock where
  /-- The time. -/
  now : Moment
  /-- The date where the user is. -/
  today : Date
  deriving DecidableEq, Repr

/-- A clock where the user's time is universal time. -/
def Moment.clock (m : Moment) : Clock := ⟨m, m.date⟩

end RuleCalendar
