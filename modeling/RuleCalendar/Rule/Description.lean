import RuleCalendar.Rule.Basic
import RuleCalendar.Value.Basic

/-!
# Describing a rule

What a rule says, as a mapping of its parameters by name; those that say nothing are left out.
-/

namespace RuleCalendar.Rule

private def entry (key : String) (value : Option Value) : List (String × Value) :=
  (value.map (key, ·)).toList

private def number (key : String) (value : Option Int) : List (String × Value) :=
  entry key (value.map Value.int)

/-- The parameters that a rule has, by name. -/
def describe (r : Rule) : List (String × Value) :=
  ("family", .text r.family.name) ::
    (entry "pattern" (if r.pattern.isEmpty then none else some (.text r.pattern)) ++
      entry "anchor" (r.anchor.map fun a ↦ .text a.name) ++
      number "weekday" r.weekday ++ number "day" r.day ++ number "ordinal" r.ordinal ++
      number "month" r.month ++ number "year" r.year ++
      entry "months" (if r.months.isEmpty then none else some (.list (r.months.map Value.int))) ++
      entry "shift" (if r.shift = .none then none else some (.text r.shift.name)) ++
      entry "exclude_weekends" (if r.excludeWeekends then some (.bool true) else none))

end RuleCalendar.Rule
