import RuleCalendar.Date.Moment

/-!
# Timestamps

A timestamp is a date and a time of day to the microsecond, as it is written somewhere, perhaps with
its distance from universal time.
-/

namespace RuleCalendar

/-- A written time. -/
structure Timestamp where
  /-- The date and the time of day to the second. -/
  moment : Moment
  /-- The millionth parts of a second. -/
  micros : Nat
  /-- The minutes by which it is ahead of universal time. -/
  offset : Option Int
  deriving DecidableEq, Repr

namespace Timestamp

/-- Hours and minutes, with a colon between them. -/
private def hoursMinutes (minutes : Nat) : List Char :=
  Text.zeroPadded 2 (minutes / 60) ++ ':' :: Text.zeroPadded 2 (minutes % 60)

/-- The distance from universal time with its sign. -/
private def offsetText (offset : Int) : List Char :=
  (if offset < 0 then '-' else '+') :: hoursMinutes offset.natAbs

/-- Date and time with a character between them. -/
def toText (mark : Char) (t : Timestamp) : List Char :=
  t.moment.date.iso.toList ++ mark :: hoursMinutes (60 * t.moment.hour + t.moment.minute) ++
    ':' :: Text.zeroPadded 2 t.moment.second ++
    (if t.micros = 0 then [] else '.' :: Text.zeroPadded 6 t.micros) ++
    (t.offset.elim [] offsetText)

/-- A number of minutes inside other values, in days and seconds. -/
def quotedSpan (minutes : Int) : List Char :=
  let days := minutes / 1440
  let seconds := minutes % 1440 * 60
  let parts :=
    (if days = 0 then [] else ["days=".toList ++ Text.integer days]) ++
      if seconds = 0 then [] else ["seconds=".toList ++ Text.integer seconds]
  "datetime.timedelta(".toList ++
    (if parts.isEmpty then ['0'] else [',', ' '].intercalate parts) ++ [')']

/-- A distance from universal time inside other values. -/
private def quotedOffset (offset : Int) : List Char :=
  if offset = 0 then "datetime.timezone.utc".toList
  else "datetime.timezone(".toList ++ quotedSpan offset ++ [')']

/-- The timestamp inside other values; seconds and their parts are left out where they are zero at
the end. -/
def quoted (t : Timestamp) : List Char :=
  let m := t.moment
  let seconds := [Text.decimal m.second]
  let small :=
    if t.micros != 0 then seconds ++ [Text.decimal t.micros]
    else if m.second != 0 then seconds else []
  let zone := t.offset.elim [] fun offset ↦ ["tzinfo=".toList ++ quotedOffset offset]
  "datetime.datetime(".toList ++ [',', ' '].intercalate
    ([Text.integer m.date.year, Text.integer m.date.month, Text.integer m.date.day,
      Text.decimal m.hour, Text.decimal m.minute] ++ small ++ zone) ++ [')']

end Timestamp

end RuleCalendar
