import RuleCalendar.Value.Basic
import RuleCalendar.Yaml.Fault
import RuleCalendar.Yaml.Plain

/-!
# Dates and times of YAML

The date or the time that a text stands for once it is taken for one. Of the digits of a fraction
six are kept.
-/

namespace RuleCalendar.Yaml

/-- The date of its parts. -/
def DateParts.toDate (d : DateParts) : Except ReadError Date :=
  (Date.of d.year d.month d.day).mapError .date

/-- The millionth parts of a second that the digits of a fraction stand for. -/
def microsOf (fraction : List Char) : Nat :=
  let kept := fraction.take 6
  decimalValue (kept ++ List.replicate (6 - kept.length) '0')

/-- The minutes of a day. -/
def minutesOfDay : Int := 1440

/-- The time of its parts. Its distance from universal time is looked at first. -/
def TimeParts.toTimestamp (d : DateParts) (t : TimeParts) : Except ReadError Timestamp := do
  if let some offset := t.offset then
    if minutesOfDay ≤ offset.natAbs then throw (.offsetOutOfRange offset)
  let date ← d.toDate
  if 24 ≤ t.hour then throw .hourOutOfRange
  if 60 ≤ t.minute then throw .minuteOutOfRange
  if 60 ≤ t.second then throw .secondOutOfRange
  return ⟨⟨date, t.hour, t.minute, t.second⟩, microsOf t.fraction, t.offset⟩

/-- The date or the time that a text stands for. -/
def readTime (s : List Char) : Except ReadError Scalar :=
  match dateTimeOf? 1 s with
  | none => .error .badTime
  | some (d, none) => d.toDate.map Scalar.date
  | some (d, some t) => (t.toTimestamp d).map Scalar.time

end RuleCalendar.Yaml
