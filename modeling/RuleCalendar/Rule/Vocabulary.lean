import RuleCalendar.Date.Names
import RuleCalendar.Date.WorkingDay
import RuleCalendar.Pattern

/-!
# The vocabulary of rule texts

The patterns and phrases that rule texts are searched for, in their normal form. Weekdays and
months count by their full names only, so that ordinary words are not taken for dates.
-/

namespace RuleCalendar.Vocabulary

open Pattern

/-- The name of a weekday; reads its number from 0 for Monday. -/
def weekday : Pattern := name (weekdayNames.zipIdx.map fun n ↦ (n.1, (n.2 : Int)))

/-- The name of a month; reads its number from 1 for January. -/
def month : Pattern := name (monthNames.zipIdx.map fun n ↦ (n.1, (n.2 : Int) + 1))

/-- The rank of a date within a month; reads 0 for the first, -1 for the last. -/
def ordinal : Pattern :=
  name [("second", 1), ("fourth", 3), ("first", 0), ("third", 2), ("fifth", 4), ("last", -1),
    ("1st", 0), ("2nd", 1), ("3rd", 2), ("4th", 3), ("5th", 4)]

/-- The ending of an ordinal number in digits. -/
def ordinalEnding : Pattern := oneOfTexts ["st", "nd", "rd", "th"]

/-- A number of one or two digits; reads it. -/
def dayNumber : Pattern := number 1 2

private def working : Pattern := oneOfTexts ["business", "working"]

/-! ### Single words -/

/-- A weekday as a word, in the singular or the plural. -/
def weekdayWord : Pattern := whole (weekday ++ optional "s")

/-- A month as a word. -/
def monthWord : Pattern := whole month

/-! ### Families -/

/-- Words for every day. -/
def daily : Pattern := whole "every day" <|> whole "daily"

/-- Words that leave weekends out. -/
def withoutWeekends : Pattern :=
  whole (oneOfTexts ["except", "excluding", "not on", "no"] ++ " weekend" ++ optional "s") <|>
    whole "weekdays only"

/-- Words for every week, but not with a hyphen before them. -/
def weekly : Pattern :=
  whole "every week" <|> edge ++ unlessBehind ['-'] ++ "weekly" ++ edge

/-- Words for every month. -/
def monthly : Pattern := whole "every month" <|> whole "monthly"

/-- Every occurrence of a weekday; reads it. -/
def everyWeekday : Pattern :=
  whole (oneOfTexts ["every", "all"] ++ " " ++ weekday ++ optional "s")

/-- Words for every other week. -/
def biweekly : Pattern :=
  whole ("bi" ++ optional "-" ++ "weekly") <|>
    whole ("every " ++ oneOfTexts ["two", "2", "other"] ++ " week" ++ optional "s") <|>
    whole "fortnightly"

/-- Words for every quarter. -/
def quarterly : Pattern := whole "quarterly" <|> whole "every quarter"

/-- Words for every half-year. -/
def semiannual : Pattern :=
  whole ("semi" ++ optional "-" ++ "annual" ++ optional "ly") <|> whole "twice a year" <|>
    whole ("every " ++ oneOfTexts ["6", "six"] ++ " months")

/-- Words for every year. -/
def annual : Pattern := whole "annually" <|> whole "yearly" <|> whole "once a year"

/-- Words for the last day of a month. -/
def endOfMonth : Pattern :=
  whole "last day of" <|> whole ("end of " ++ optional "the " ++ "month")

/-- Words for working days. -/
def businessDay : Pattern :=
  whole ("business day" ++ optional "s") <|> whole ("weekday" ++ optional "s") <|>
    whole ("working day" ++ optional "s")

/-! ### Places inside a month -/

/-- A weekday of a given rank; reads the rank and the weekday. -/
def ordinalWeekday : Pattern := whole (ordinal ++ " " ++ weekday)

/-- The first working day. -/
def firstWorkingDay : Pattern := whole ("first " ++ working ++ " day")

/-- The last working day. -/
def lastWorkingDay : Pattern := whole ("last " ++ working ++ " day")

/-- A working day by an ordinal number in digits; reads the number. -/
def numberedWorkingDay : Pattern :=
  whole (dayNumber ++ ordinalEnding ++ " " ++ working ++ " day")

/-- A working day by a rank in words; reads the rank. -/
def rankedWorkingDay : Pattern := whole (ordinal ++ " " ++ working ++ " day")

/-- Every working day. -/
def everyWorkingDay : Pattern :=
  whole (oneOfTexts ["every", "all", "each"] ++ " " ++ working ++ " day" ++ optional "s") <|>
    whole (oneOfTexts ["every", "all"] ++ " weekday" ++ optional "s")

/-- The last day, or the end of something. -/
def lastDay : Pattern := whole "last day" <|> whole "end of"

/-! ### Day numbers -/

/-- An ordinal number in digits; reads it. -/
def suffixedDay : Pattern := whole (dayNumber ++ ordinalEnding)

/-- A number after a word that makes it a day; reads it. -/
def introducedDay : Pattern := whole (oneOfTexts ["day", "the", "on"] ++ " " ++ dayNumber)

/-- A month and a day number after it; reads the day, not the month. -/
def monthThenDay : Pattern :=
  whole (oneOfTexts monthNames ++ " " ++ dayNumber ++ optional ordinalEnding)

/-- A day number and a month after it; reads the day, not the month. -/
def dayThenMonth : Pattern :=
  whole (dayNumber ++ optional ordinalEnding ++ " " ++ optional "of " ++ oneOfTexts monthNames)

/-- A number that stands as a word of its own. -/
def bareNumber (n : Nat) : Pattern := whole (text (Text.decimal n))

/-- Phrases for the first days of a month, and the day each of them names. -/
def dayKeywords : List (String × Int) :=
  [("first of", 1), ("1st of", 1), ("second of", 2), ("2nd of", 2), ("third of", 3),
    ("3rd of", 3)]

/-! ### Shifts -/

/-- The phrases that move a date off a weekend, in the order in which they count. -/
def shifts : List (Pattern × Shift) :=
  [(whole (oneOfTexts ["previous", "prior", "preceding"] ++ " friday") <|> whole "friday before",
      .previousFriday),
    (whole (oneOfTexts ["next", "following"] ++ " monday") <|> whole "monday after", .nextMonday),
    (whole ("next " ++ oneOfTexts ["working", "business"] ++ " day"), .nextWorkingDay)]

/-! ### Single dates -/

/-- A date as year, month and day between hyphens; reads the three. -/
def isoDate : Pattern := whole (number 4 4 ++ "-" ++ dayNumber ++ "-" ++ dayNumber)

/-- A date as month, day and year between slashes; reads the three. -/
def slashDate : Pattern := whole (dayNumber ++ "/" ++ dayNumber ++ "/" ++ number 4 4)

/-- January and no other month. -/
def januaryOnly : Pattern := whole "only in january" <|> whole "january only"

/-- A day number of every month; reads it. -/
def dayOfEveryMonth : Pattern := whole (dayNumber ++ optional ordinalEnding ++ " of every month")

/-- A day number after "every" that does not count days, weeks, months or years; reads it. -/
def everyDayNumber : Pattern :=
  unlessBehind "runs ".toList ++ whole ("every " ++ dayNumber ++ optional ordinalEnding) ++
    unlessAhead (" " ++ (oneOfTexts ["day", "week", "month", "year"] ++ optional "s") ++ edge)

/-- A day number of every month, said in one way or the other; reads it. -/
def nthOfEveryMonth : Pattern := dayOfEveryMonth <|> everyDayNumber

/-- A day number after "runs every"; reads it. -/
def runsEvery : Pattern := whole ("runs every " ++ dayNumber ++ optional ordinalEnding)

/-- The holidays with a fixed date, by a phrase: month and day. -/
def holidays : List (String × Int × Int) :=
  [("christmas", 12, 25), ("new year", 1, 1), ("valentine", 2, 14), ("halloween", 10, 31),
    ("independence day", 7, 4)]

/-- Day numbers that go with a shift when both phrases stand in the text. -/
def shiftCombinations : List (String × String × Int × Shift) :=
  [("9th", "previous friday", 9, .previousFriday), ("12th", "next monday", 12, .nextMonday),
    ("13th", "next working day", 13, .nextWorkingDay)]

end RuleCalendar.Vocabulary
