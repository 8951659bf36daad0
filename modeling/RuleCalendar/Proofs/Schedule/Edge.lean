import RuleCalendar.Proofs.Rule.WellFormed
import RuleCalendar.Proofs.Schedule.Discovery

/-!
# The edge of the calendar

A walk through a month looks one step beyond it, and beyond the last month of the calendar there is
nothing. Main statement: this is the only way in which the events of a year are not found. Shifts
lead nowhere beyond the calendar, every number that a rule text promises is read, and every month
has a last date on each weekday.
-/

namespace RuleCalendar

/-! ### The last month -/

namespace Rule

/-- Only single dates, which lie on a day number, have a year. -/
theorem year_eq_none_of_ordinalWeekday {t : List Char}
    (h : (Rule.ofText t).anchor = some .ordinalWeekday) : (Rule.ofText t).year = none := by
  revert h
  refine Rule.ofText_cases (p := fun r ↦ r.anchor = some .ordinalWeekday → r.year = none)
    (fun _ ↦ rfl) ?_ t
  intro entry hentry s _ hanchor
  simp only [ruleTable, List.mem_cons, List.not_mem_nil, or_false] at hentry
  rcases hentry with rfl | rfl | rfl | rfl | rfl | rfl | rfl | rfl | rfl | rfl | rfl | rfl
  · rfl
  · rfl
  · exact Rule.year_at _ _
  · rfl
  · rfl
  · exact Rule.year_at _ _
  · exact Rule.year_at _ _
  · exact Rule.year_at _ _
  · rfl
  · simp only [RuleEntry.ordinalWeekday]
    split
    · rfl
    · rfl
  · exact Rule.year_at _ _
  · simp only [RuleEntry.singleDate] at hanchor ⊢
    obtain hunrecognized | ⟨name, hanswer⟩ := SingleDate.ofSingleDate_cases s
    · rw [hunrecognized]
      rfl
    · rw [hanswer.anchor] at hanchor
      cases hanchor

/-- A rule that looks beyond the last month has no dates there. -/
theorem datesIn_last {t : List Char} (h : (Rule.ofText t).LooksBeyond 12) :
    (Rule.ofText t).datesIn 9999 12 = .error .beyondCalendar := by
  have hwell := wellPlaced_ofText t
  have hyear := year_eq_none_of_ordinalWeekday (t := t)
  generalize Rule.ofText t = r at *
  cases h with
  | inl hfamily =>
    simp only [List.mem_cons, List.not_mem_nil, or_false] at hfamily
    obtain ⟨start, hstart, -⟩ : ∃ d, monthStart 9999 12 = .ok d ∧
        d.number = daysBefore 9999 12 + 1 := monthStart_ok (by decide) (by decide)
    obtain ⟨last, hlast, hnumber⟩ := monthEnd_last
    have hweekly :=
      weekdaysOfMonth_last (r.weekday.getD 0) (show (0 : Int) < 7 by decide) (by decide)
    have hbiweekly :=
      weekdaysOfMonth_last (r.weekday.getD 0) (show (0 : Int) < 14 by decide) (by decide)
    rcases hfamily with hf | hf | hf | hf
    · simp only [datesIn, hf, hstart, hlast, ok_bind,
        start.walk_eq_error Int.one_pos (by decide) hnumber, error_bind]
    · simp only [datesIn, hf, hweekly]
    · simp only [datesIn, hf, hweekly]
    · simp only [datesIn, hf, hbiweekly]
  | inr hordinal =>
    obtain ⟨hanchor, happlies⟩ := hordinal
    have hanchored := hwell.isAnchored (hanchor ▸ Option.some_ne_none _)
    have hcovers : r.coversMonth 9999 12 = true := by
      rw [coversMonth, happlies, hyear hanchor]
      rfl
    rw [datesIn_of_isAnchored hanchored, if_pos hcovers, anchoredDates, hanchor]
    simp only [Option.getD_some, lastWeekdayOfMonth_last, nthWeekdayOfMonth_last, error_bind,
      ite_self]

end Rule

/-! ### The last year -/

namespace Schedule

variable {lines : List RuleLine}

/-- The search for the events of a line in a month of the last year fails in one way only. -/
theorem eventsOf_last {month : Int} (hm : month ∈ months) (index : Nat) (line : RuleLine) :
    (∃ es, eventsOf index line line.toRule 9999 month = .ok es) ∨
      eventsOf index line line.toRule 9999 month = .error .beyondCalendar := by
  have hmonth := month_bounds hm
  by_cases hbeyond : line.toRule.LooksBeyond month ∧ month = 12
  · obtain ⟨hlooks, rfl⟩ := hbeyond
    right
    rw [eventsOf, RuleLine.toRule, Rule.datesIn_last hlooks, error_bind]
  · left
    obtain ⟨ds, hds, -⟩ := Rule.datesIn_ok (show (1 : Int) ≤ 9999 ∧ _ by decide) hmonth line.toRule
      fun hlooks ↦ .inr (by have := not_and.mp hbeyond hlooks; omega)
    exact ⟨_, by rw [eventsOf, hds, ok_bind]; rfl⟩

/-- A line that looks beyond the last month has no events in the last year. -/
theorem discover_last (h : ∃ line ∈ lines, line.toRule.LooksBeyond 12) :
    discover lines 9999 = .error .beyondCalendar := by
  obtain ⟨line, hline, hlooks⟩ := h
  have hsteps (month : Int) (hm : month ∈ months) :
      ∀ l ∈ ruled lines,
        (∃ es, eventsOf l.1 l.2.1 l.2.2 9999 month = .ok es) ∨
          eventsOf l.1 l.2.1 l.2.2 9999 month = .error .beyondCalendar := by
    intro l hl
    obtain ⟨k, -, rfl⟩ := List.mem_map.mp hl
    exact eventsOf_last hm k.2 k.1
  obtain ⟨index, hindex, hget⟩ := List.mem_iff_getElem.mp hline
  have hmem : (line, index) ∈ lines.zipIdx :=
    List.mem_zipIdx_iff_getElem?.mpr (List.getElem?_eq_some_iff.mpr ⟨hindex, hget⟩)
  have hfails : eventsOf index line line.toRule 9999 12 = .error .beyondCalendar := by
    rw [eventsOf, RuleLine.toRule, Rule.datesIn_last hlooks, error_bind]
  have hmonth : eventsOfAll (ruled lines) 9999 12 = .error .beyondCalendar :=
    mapM_eq_error (hsteps 12 (by decide)) ⟨_, List.mem_map_of_mem hmem, hfails⟩
  have hmonths (month : Int) (hm : month ∈ months) :
      (∃ found, eventsOfAll (ruled lines) 9999 month = .ok found) ∨
        eventsOfAll (ruled lines) 9999 month = .error .beyondCalendar :=
    mapM_eq_ok_or_error (hsteps month hm)
  rw [discover_eq, mapM_eq_error hmonths ⟨12, by decide, hmonth⟩, error_bind]

/-- Nothing that is looked up for the events of a year is missing: the rule texts are read as many
numbers from as are taken, and the last date on a weekday is there in every month. -/
structure NothingMissing (lines : List RuleLine) (year : Int) : Prop where
  numbers : ∀ line ∈ lines, ∀ p ∈ [(Vocabulary.weekdayWord, 1), (Vocabulary.monthWord, 1),
      (Vocabulary.everyWeekday, 1), (Vocabulary.ordinalWeekday, 2),
      (Vocabulary.numberedWorkingDay, 1), (Vocabulary.rankedWorkingDay, 1),
      (Vocabulary.suffixedDay, 1), (Vocabulary.introducedDay, 1), (Vocabulary.monthThenDay, 1),
      (Vocabulary.dayThenMonth, 1), (Vocabulary.isoDate, 3), (Vocabulary.slashDate, 3),
      (Vocabulary.nthOfEveryMonth, 1), (Vocabulary.runsEvery, 1)], ∀ ns,
    p.1.search (Text.normalForm line.rule.toList) = some ns → ns.length = p.2
  lastWeekday : ∀ month ∈ months, ∀ weekday, lastWeekdayOfMonth year month weekday ≠ .ok none

/-- The events of a year are found, with nothing missing on the way, unless it is the last year of
the calendar and the rule of a line looks for a date beyond its December. Each event has the month
and the year of its date. -/
theorem ofLines_eq_error_iff (lines : List RuleLine) (year : Int)
    (hyear : 1 ≤ year ∧ year ≤ 9999) :
    let beyond := year = 9999 ∧ ∃ line ∈ lines, line.toRule.LooksBeyond 12
    NothingMissing lines year ∧
      (ofLines lines year = .error .beyondCalendar ↔ beyond) ∧
      (¬beyond → ∃ s : Schedule, ofLines lines year = .ok s ∧
        ∀ e ∈ s.events, e.checked e.date.month e.date.year = .ok e) := by
  intro beyond
  have hok : ¬beyond → ∃ s : Schedule, ofLines lines year = .ok s := by
    intro hinside
    refine ⟨_, ofLines_eq_ok_of_next hyear fun line hline month hm hlooks ↦ ?_⟩
    have hmonth := month_bounds hm
    by_cases hlast : year = 9999 ∧ month = 12
    · obtain ⟨rfl, rfl⟩ := hlast
      exact absurd ⟨rfl, line, hline, hlooks⟩ hinside
    · rw [HasNextMonth]
      omega
  refine ⟨⟨?_, ?_⟩, ⟨?_, ?_⟩, ?_⟩
  · intro line _ p hp ns hns
    refine Pattern.length_of_search ?_ hns
    clear hns
    revert p
    decide +kernel
  · intro month hm weekday
    exact lastWeekdayOfMonth_ne_none hyear (month_bounds hm) weekday
  · intro herror
    by_contra hinside
    obtain ⟨s, hs⟩ := hok hinside
    rw [hs] at herror
    cases herror
  · rintro ⟨rfl, hlooks⟩
    rw [ofLines_eq, discover_last hlooks, error_bind]
  · intro hinside
    obtain ⟨s, hs⟩ := hok hinside
    exact ⟨s, hs, fun e _ ↦ if_pos ⟨rfl, rfl⟩⟩

/-- In the last year a shift from a day number stays in the calendar, and a weekday of a given rank
is looked for beyond it. -/
theorem ofLines_last_year_fourth_friday :
    let lines : List RuleLine :=
      [{ name := "Close", rule := "31, if weekend then next monday" },
        { name := "Payroll", rule := "every month on the fourth friday" }]
    let beyond := (9999 : Int) = 9999 ∧ ∃ line ∈ lines, line.toRule.LooksBeyond 12
    ((1 : Int) ≤ 9999 ∧ (9999 : Int) ≤ 9999) ∧ NothingMissing lines 9999 ∧
      (ofLines lines 9999 = .error .beyondCalendar ↔ beyond) ∧
      (¬beyond → ∃ s : Schedule, ofLines lines 9999 = .ok s ∧
        ∀ e ∈ s.events, e.checked e.date.month e.date.year = .ok e) :=
  ⟨by decide, ofLines_eq_error_iff _ _ (by decide)⟩

end Schedule

end RuleCalendar
