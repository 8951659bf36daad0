import RuleCalendar.Text.Spelling

/-!
# Rule lines

A line of rules text names something that recurs and says when: "Close - last working day". The name
ends at the first hyphen between spaces; any later one belongs to the rule. Lines are told apart and
trimmed after typographic characters are folded, and blank lines are left out.
-/

namespace RuleCalendar

/-- A named rule text with a note to carry along. -/
structure RuleLine where
  /-- What recurs. -/
  name : String
  /-- When it recurs, in words. -/
  rule : String := ""
  /-- The note that its dates carry. -/
  notes : String := ""
  deriving DecidableEq, Repr

namespace RuleLine

/-- What stands between the name and the rule. -/
def separator : List Char := [' ', '-', ' ']

/-- The text before the first separator and the text after it, nothing if there is none. -/
def splitAtSeparator : List Char → List Char × List Char
  | [] => ([], [])
  | c :: rest =>
    if separator.isPrefixOf (c :: rest) then ([], (c :: rest).drop separator.length)
    else
      let parts := splitAtSeparator rest
      (c :: parts.1, parts.2)

/-- The rule line that a line of text holds; the rule is also its note. -/
def parse (line : List Char) : RuleLine :=
  let parts := splitAtSeparator line
  let rule := String.ofList (Text.strip parts.2)
  { name := String.ofList (Text.strip parts.1), rule := rule, notes := rule }

/-- The rule lines of a text. -/
def parseAll (text : List Char) : List RuleLine :=
  ((Text.lines (Text.fold text)).filter fun l ↦ !Text.allBlank l).map fun l ↦
    parse (Text.strip l)

end RuleLine

end RuleCalendar
