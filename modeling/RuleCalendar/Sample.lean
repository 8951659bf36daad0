/-!
# Sample rules

The rules text that is used when no other is given.
-/

namespace RuleCalendar

/-- The lines of the sample. -/
def sampleLines : List String :=
  ["NA Monthend - First working day of every month",
    "EU Monthend - 2nd of every month, no holiday shifting",
    "EU Revenue Allocations - 12th of every month, if weekend then next Monday",
    "GLOBAL IMPRS - 13th of every month, if weekend then next working day",
    "NA F&V allocations - 15th of every month, no holiday shifting",
    "EU F&V allocations - 19th of every month, no holiday shifting",
    "IMG Allocations and adjustments - 15th of every month, no holiday shifting",
    "EU cost corrections - Runs every 9th, if weekend runs on previous Friday",
    "Money currency update - First of every month",
    "EU Dealer price extract - 1st of every month"]

/-- The sample as one text. -/
def sampleText : String := String.join (sampleLines.map (· ++ "\n"))

end RuleCalendar
