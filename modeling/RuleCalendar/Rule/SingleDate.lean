import RuleCalendar.Rule.Reading

/-!
# Single dates

What a text that names no other recurrence is read as: a day number, in the month and the year that
the text gives or in every month. The matchers are tried in order and the first that answers wins.
-/

namespace RuleCalendar

namespace SingleDate

/-- On a day number of every month. -/
def onDay (pattern : String) (day : Int) : Rule where
  family := .singleDate
  pattern := pattern
  anchor := some .day
  day := some day

/-- The rule in one month only. -/
def inMonth (r : Rule) (month : Int) : Rule :=
  { r with month := some month, months := [month] }

/-- On one date, if there is such a month. -/
def onDate (pattern : String) (year month day : Int) : Option Rule :=
  if 1 ≤ month ∧ month ≤ 12 then
    some { inMonth (onDay pattern day) month with year := some year }
  else none

/-- A date with hyphens. A day that the month does not have is found out when dates are made. -/
def isoDate? (s : List Char) : Option Rule :=
  match Vocabulary.isoDate.search s with
  | some [year, month, day] => onDate "iso_date" year month day
  | _ => none

/-- A date with slashes. -/
def slashDate? (s : List Char) : Option Rule :=
  match Vocabulary.slashDate.search s with
  | some [month, day, year] => onDate "slash_date" year month day
  | _ => none

/-- A day of a named month, the first without a day number. -/
def namedMonth? (s : List Char) : Option Rule :=
  (Reading.month? s).map fun month ↦
    { inMonth (onDay "named_month" ((Reading.monthDay? s).getD 1)) month with
      shift := Reading.shift s }

/-- A holiday with a fixed date. -/
def holiday? (s : List Char) : Option Rule :=
  (Vocabulary.holidays.find? fun h ↦ containsPhrase h.1 s).map fun h ↦
    inMonth (onDay "holiday" h.2.2) h.2.1

/-- A phrase for one of the first days of a month. -/
def dayKeyword? (s : List Char) : Option Rule :=
  (Reading.keywordDay? s).map fun day ↦
    { onDay "day_keyword" day with shift := Reading.shift s }

/-- A number that stands as a word of its own. -/
def bareDay? (s : List Char) : Option Rule :=
  (Reading.bareDay? s).map fun day ↦ { onDay "bare_day" day with shift := Reading.shift s }

/-- A day number together with the shift that goes with it. -/
def shiftCombination? (s : List Char) : Option Rule :=
  (Vocabulary.shiftCombinations.find? fun c ↦
    containsPhrase c.1 s && containsPhrase c.2.1 s).map fun c ↦
      { onDay "shift_combo" c.2.2.1 with shift := c.2.2.2 }

/-- A day of January. -/
def januaryOnly? (s : List Char) : Option Rule :=
  if Vocabulary.januaryOnly.occursIn s then
    some (inMonth (onDay "january_only" ((Reading.day? s).getD 1)) 1)
  else none

/-- A day number of every month. -/
def nthOfEveryMonth? (s : List Char) : Option Rule :=
  ((Vocabulary.nthOfEveryMonth.first? s).filter Reading.isDayNumber).map fun day ↦
    { onDay "nth_of_every_month" day with shift := Reading.shift s }

/-- A day number after "runs every", which moves to the Friday before if the text names it. -/
def runsEvery? (s : List Char) : Option Rule :=
  ((Vocabulary.runsEvery.first? s).filter Reading.isDayNumber).map fun day ↦
    { onDay "runs_every" day with
      shift := if containsPhrase "previous friday" s then .previousFriday else .none }

/-- The matchers by name, in the order in which they are tried. -/
def matchers : List (String × (List Char → Option Rule)) :=
  [("iso_date", isoDate?), ("slash_date", slashDate?), ("named_month", namedMonth?),
    ("holiday", holiday?), ("day_keyword", dayKeyword?), ("bare_day", bareDay?),
    ("shift_combo", shiftCombination?), ("january_only", januaryOnly?),
    ("nth_of_every_month", nthOfEveryMonth?), ("runs_every", runsEvery?)]

/-- What each matcher that answers makes of a text, in order. -/
def hits (s : List Char) : List (String × Rule) :=
  matchers.filterMap fun m ↦ (m.2 s).map (m.1, ·)

end SingleDate

/-- The rule of a text as a single date. -/
def Rule.ofSingleDate (s : List Char) : Rule :=
  (SingleDate.matchers.findSome? fun m ↦ m.2 s).getD .unrecognized

end RuleCalendar
