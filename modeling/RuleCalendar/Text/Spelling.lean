import RuleCalendar.Text.Blank
import RuleCalendar.Text.LowerCase

/-!
# Spelling

Typographic dashes, no-break spaces and curly apostrophes that come with pasted text are read as
their ASCII forms. The normal form of a rule text has them folded, its blanks collapsed, and its
letters in lower case, in this order.
-/

namespace RuleCalendar.Text

/-- The ASCII form of a typographic character. -/
def foldChar (c : Char) : Char :=
  if c = '\u2011' ∨ c = '\u2013' ∨ c = '\u2014' then '-'
  else if c = '\u00a0' then ' '
  else if c = '\u2019' then '\''
  else c

/-- The text with dashes, no-break spaces and curly apostrophes in ASCII. -/
def fold (s : List Char) : List Char := s.map foldChar

/-- The form in which rule texts are compared. -/
def normalForm (s : List Char) : List Char := lower (collapse (fold s))

end RuleCalendar.Text
