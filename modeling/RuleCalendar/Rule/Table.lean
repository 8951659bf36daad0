import RuleCalendar.Rule.SingleDate
import RuleCalendar.Text.Spelling

/-!
# The rule table

A rule text is understood by the first entry of a table that applies to its normal form, so that
earlier kinds of rule take texts away from later ones: "quarterly on mondays" is quarterly. The last
entry takes every text that is left.
-/

namespace RuleCalendar

/-- One kind of rule text. -/
structure RuleEntry where
  /-- The name of the entry. -/
  name : String
  /-- Whether the entry takes a text in its normal form. -/
  applies : List Char → Bool
  /-- The rule that the entry makes of a text that it takes. -/
  rule : List Char → Rule

namespace RuleEntry

/-- Every day. -/
def daily : RuleEntry where
  name := "daily"
  applies := Vocabulary.daily.occursIn
  rule s := { family := .daily, pattern := "daily", excludeWeekends := Reading.excludesWeekends s }

/-- Every week, on Monday if the text names no weekday. -/
def weekly : RuleEntry where
  name := "weekly"
  applies := Vocabulary.weekly.occursIn
  rule s :=
    { family := .weekly, pattern := "weekly", weekday := some ((Reading.weekday? s).getD 0) }

/-- Every month. -/
def monthly : RuleEntry where
  name := "monthly"
  applies := Vocabulary.monthly.occursIn
  rule s :=
    Rule.at { family := .monthly, pattern := "monthly" } (Reading.place Reading.day? s)

/-- Every occurrence of a weekday. -/
def everyWeekday : RuleEntry where
  name := "every_weekday"
  applies := Vocabulary.everyWeekday.occursIn
  rule s :=
    { family := .weekday, pattern := "every_weekday", weekday := Vocabulary.everyWeekday.first? s }

/-- Every other week, on Monday if the text names no weekday. -/
def biweekly : RuleEntry where
  name := "biweekly"
  applies := Vocabulary.biweekly.occursIn
  rule s :=
    { family := .biweekly, pattern := "biweekly", weekday := some ((Reading.weekday? s).getD 0) }

/-- The first month of every quarter. -/
def quarterly : RuleEntry where
  name := "quarterly"
  applies := Vocabulary.quarterly.occursIn
  rule s :=
    Rule.at { family := .quarterly, pattern := "quarterly", months := [1, 4, 7, 10] }
      (Reading.place Reading.day? s)

/-- The first month of every half-year. -/
def semiannual : RuleEntry where
  name := "semiannual"
  applies := Vocabulary.semiannual.occursIn
  rule s :=
    Rule.at { family := .semiannual, pattern := "semiannual", months := [1, 7] }
      (Reading.place Reading.day? s)

/-- Every year, in January if the text names no month. -/
def annual : RuleEntry where
  name := "annual"
  applies := Vocabulary.annual.occursIn
  rule s :=
    let month := (Reading.month? s).getD 1
    Rule.at { family := .annual, pattern := "annual", month := some month, months := [month] }
      (Reading.place Reading.monthDay? s)

/-- The last day of every month. -/
def endOfMonth : RuleEntry where
  name := "end_of_month"
  applies := Vocabulary.endOfMonth.occursIn
  rule _ := Rule.at { family := .endOfMonth, pattern := "end_of_month" } .lastDay

/-- A weekday of a given rank in every month. -/
def ordinalWeekday : RuleEntry where
  name := "ordinal_weekday"
  applies := Vocabulary.ordinalWeekday.occursIn
  rule s :=
    match Reading.ordinalWeekday? s with
    | some (ordinal, weekday) =>
      Rule.at { family := .ordinalWeekday, pattern := "ordinal_weekday" }
        (.ordinalWeekday ordinal weekday)
    | none => .unrecognized

/-- One working day of every month, or all. -/
def businessDay : RuleEntry where
  name := "business_day"
  applies := Vocabulary.businessDay.occursIn
  rule s :=
    Rule.at { family := .businessDay, pattern := "business_day" }
      ((Reading.workingDay? s).getD .everyWorkingDay)

/-- Any text that is left. -/
def singleDate : RuleEntry where
  name := "single_date"
  applies s := !s.isEmpty
  rule := Rule.ofSingleDate

end RuleEntry

/-- The entries in the order in which they are tried. -/
def ruleTable : List RuleEntry :=
  [.daily, .weekly, .monthly, .everyWeekday, .biweekly, .quarterly, .semiannual, .annual,
    .endOfMonth, .ordinalWeekday, .businessDay, .singleDate]

/-- The names of the entries that take a text, in order. -/
def ruleNames (s : List Char) : List String :=
  (ruleTable.filter (·.applies s)).map (·.name)

/-- The rule that a text gives. -/
def Rule.ofText (text : List Char) : Rule :=
  let s := Text.normalForm text
  match ruleTable.find? (·.applies s) with
  | some entry => entry.rule s
  | none => .unrecognized

end RuleCalendar
