import RuleCalendar.Rule.Basic
import RuleCalendar.Rule.Vocabulary

/-!
# Reading the details of a rule text

Weekdays, months, day numbers, shifts and places inside a month, each read from a rule text in its
normal form. None of them decides what kind of rule the text gives.
-/

namespace RuleCalendar

namespace Pattern

/-- The first number that the pattern reads in a text. -/
def first? (p : Pattern) (s : List Char) : Option Int := (p.search s).bind (·.head?)

end Pattern

/-- Whether a phrase stands in a text, inside words or not. -/
def containsPhrase (phrase : String) (s : List Char) : Bool :=
  (Pattern.text phrase.toList).occursIn s

namespace Reading

/-- Whether a number can be a day of a month. -/
def isDayNumber (n : Int) : Bool := 1 ≤ n && n ≤ 31

/-- The first weekday that a text names. -/
def weekday? (s : List Char) : Option Int := Vocabulary.weekdayWord.first? s

/-- The first month that a text names. -/
def month? (s : List Char) : Option Int := Vocabulary.monthWord.first? s

/-- The day of the first phrase for one of the first days of a month. -/
def keywordDay? (s : List Char) : Option Int :=
  (Vocabulary.dayKeywords.find? fun k ↦ containsPhrase k.1 s).map (·.2)

/-- The first number that the pattern reads, if it can be a day of a month. -/
def validDay? (p : Pattern) (s : List Char) : Option Int := (p.first? s).filter isDayNumber

/-- The day number of a text: an ordinal number in digits, a phrase, or an introduced number. -/
def day? (s : List Char) : Option Int :=
  validDay? Vocabulary.suffixedDay s <|> keywordDay? s <|> validDay? Vocabulary.introducedDay s

/-- The day number that stands by the name of a month, or else the day number of the text. -/
def monthDay? (s : List Char) : Option Int :=
  validDay? Vocabulary.monthThenDay s <|> validDay? Vocabulary.dayThenMonth s <|> day? s

/-- The least number from 1 to 31 that stands as a word of its own. -/
def bareDay? (s : List Char) : Option Int :=
  ((List.range' 1 31).find? fun n ↦ (Vocabulary.bareNumber n).occursIn s).map Int.ofNat

/-- The shift that a text asks for. -/
def shift (s : List Char) : Shift :=
  ((Vocabulary.shifts.find? fun p ↦ p.1.occursIn s).map (·.2)).getD .none

/-- Whether a text leaves weekends out. -/
def excludesWeekends (s : List Char) : Bool := Vocabulary.withoutWeekends.occursIn s

/-- The rank and the weekday of the first weekday of a given rank. -/
def ordinalWeekday? (s : List Char) : Option (Int × Int) :=
  match Vocabulary.ordinalWeekday.search s with
  | some [ordinal, weekday] => some (ordinal, weekday)
  | _ => none

end Reading

/-- A place inside a month, with what is needed to find its date. -/
inductive Place where
  /-- The first working day. -/
  | firstWorkingDay
  /-- The last working day. -/
  | lastWorkingDay
  /-- The working day with `ordinal` working days before it. -/
  | nthWorkingDay (ordinal : Int)
  /-- All working days. -/
  | everyWorkingDay
  /-- The weekday with `ordinal` like it before it, the last for -1. -/
  | ordinalWeekday (ordinal weekday : Int)
  /-- The last day. -/
  | lastDay
  /-- A day number, moved off weekends by a shift. -/
  | day (day : Int) (shift : Shift)
  deriving DecidableEq, Repr

/-- The rule with its date at a place. -/
def Rule.at (r : Rule) : Place → Rule
  | .firstWorkingDay => { r with anchor := some .firstWorkingDay }
  | .lastWorkingDay => { r with anchor := some .lastWorkingDay }
  | .nthWorkingDay ordinal => { r with anchor := some .nthWorkingDay, ordinal := some ordinal }
  | .everyWorkingDay => { r with anchor := some .everyWorkingDay }
  | .ordinalWeekday ordinal weekday =>
    { r with anchor := some .ordinalWeekday, ordinal := some ordinal, weekday := some weekday }
  | .lastDay => { r with anchor := some .lastDay }
  | .day day shift => { r with anchor := some .day, day := some day, shift := shift }

/-- A place in the month changes no family. -/
@[simp] theorem Rule.family_at (r : Rule) (place : Place) : (r.at place).family = r.family := by
  cases place <;> rfl

/-- A place in the month changes no name of a pattern. -/
@[simp] theorem Rule.pattern_at (r : Rule) (place : Place) : (r.at place).pattern = r.pattern := by
  cases place <;> rfl

/-- A place in the month changes no months. -/
@[simp] theorem Rule.months_at (r : Rule) (place : Place) : (r.at place).months = r.months := by
  cases place <;> rfl

/-- A place in the month changes no year. -/
@[simp] theorem Rule.year_at (r : Rule) (place : Place) : (r.at place).year = r.year := by
  cases place <;> rfl

namespace Reading

/-- The place among the working days that a text names: first, last, by number, by rank, or all. -/
def workingDay? (s : List Char) : Option Place :=
  if Vocabulary.firstWorkingDay.occursIn s then some .firstWorkingDay
  else if Vocabulary.lastWorkingDay.occursIn s then some .lastWorkingDay
  else match (Vocabulary.numberedWorkingDay.first? s).filter (1 ≤ ·) with
    | some n => some (.nthWorkingDay (n - 1))
    | none =>
      match Vocabulary.rankedWorkingDay.first? s with
      | some ordinal => some (.nthWorkingDay ordinal)
      | none =>
        if Vocabulary.everyWorkingDay.occursIn s then some .everyWorkingDay else none

/-- The place of the only date of a month: one working day, a weekday of a given rank, the month's
end, or the day number that `dayOf` finds, the first without one. -/
def place (dayOf : List Char → Option Int) (s : List Char) : Place :=
  match (workingDay? s).filter (· ≠ .everyWorkingDay) with
  | some found => found
  | none =>
    match ordinalWeekday? s with
    | some (ordinal, weekday) => .ordinalWeekday ordinal weekday
    | none =>
      if Vocabulary.lastDay.occursIn s then .lastDay
      else .day ((dayOf s).getD 1) (shift s)

end Reading

end RuleCalendar
