/-!
# Runs of code points

A Unicode property is held as the list of the runs of code points that have it.
-/

namespace RuleCalendar.Text

/-- A run of code points, both ends included. -/
abbrev CodeRange := Nat × Nat

/-- Whether a code point lies in one of the runs. -/
def inRanges (ranges : List CodeRange) (point : Nat) : Bool :=
  ranges.any fun r ↦ r.1 ≤ point && point ≤ r.2

end RuleCalendar.Text
