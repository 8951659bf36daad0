import RuleCalendar.Proofs.Schedule.Discovery
import RuleCalendar.YearCalendar

/-!
# Calendars of the years that commands take

Main statements: a rules text gives a calendar for a value exactly where the value is read as a year,
and the calendar is that of the year's events; its warnings are about the lines that are not
understood.
-/

namespace RuleCalendar

/-- The numbers that are read are those that commands take. -/
theorem Quantity.read_eq_ok_iff {q : Quantity} {v : Value} {n : Int} :
    q.read v = .ok n ↔ v.toInteger = .ok n ∧ q.least ≤ n ∧ n ≤ q.most := by
  rw [read]
  cases v.toInteger with
  | error e => cases e <;> simp
  | ok m =>
    by_cases hbounds : q.least ≤ m ∧ m ≤ q.most
    · simp only [hbounds, and_self, if_true, Except.ok.injEq]
      constructor
      · rintro rfl
        exact ⟨rfl, hbounds⟩
      · exact fun h ↦ h.1
    · simp only [hbounds, if_false, reduceCtorEq, Except.ok.injEq, false_iff, not_and]
      rintro rfl hleast hmost
      exact hbounds ⟨hleast, hmost⟩

namespace YearCalendar

variable {year : Int}

/-- A year that is read is one from 2020 to 2050. -/
theorem year_bounds {v : Value} (h : Quantity.year.read v = .ok year) : 2020 ≤ year ∧ year ≤ 2050 :=
  (Quantity.read_eq_ok_iff.mp h).2

/-- The calendar of a rules text for a year that commands take. -/
def ofYear (text : List Char) (year : Int) : YearCalendar where
  year := year
  lines := RuleLine.parseAll text
  schedule :=
    { events := Event.sortByDate (Schedule.found (RuleLine.parseAll text).zipIdx year)
      unknown := Schedule.unknownRules (RuleLine.parseAll text) }

/-- A calendar is made of every text, once the year is read. -/
theorem ofText_eq (text : List Char) (v : Value) :
    ofText text v = (Quantity.year.read v).map (ofYear text) := by
  rw [ofText]
  cases hyear : Quantity.year.read v with
  | error f => rfl
  | ok year =>
    have hbounds := year_bounds hyear
    have hyear' : 1 ≤ year ∧ year ≤ 9998 := by omega
    simp only [ok_bind, Schedule.ofLines_eq_ok hyear']
    rfl

/-- The warning about a line that is not understood: its name and its rule text between quotes. -/
def warningOn (u : UnknownRule) : LogLine where
  level := .warning
  logger := "prodcal.assembler"
  message := "unrecognized rule for " ++ String.ofList (Text.quoted u.name.toList) ++ ": " ++
    String.ofList (Text.quoted u.rule.toList)

/-- The warnings of a calendar are about the lines that its schedule names, one about each. -/
theorem filter_logLines (c : YearCalendar) :
    c.logLines.filter (fun l ↦ l.level = .warning) = c.schedule.unknown.map warningOn := by
  rw [logLines, List.filter_append, List.filter_eq_self.mpr (by simp)]
  exact List.append_nil _

/-- The events of a calendar are those that are found on the lines of its text. -/
theorem mem_events_ofYear {text : List Char} {e : Event}
    (h : e ∈ (ofYear text year).schedule.events) :
    e ∈ Schedule.found (RuleLine.parseAll text).zipIdx year :=
  Event.mem_sortByDate.mp h

end YearCalendar

end RuleCalendar
