import RuleCalendar.Proofs.Schedule.Discovery

/-!
# Events of one day

Main statement: the events of a year are the found ones by date, and those of one day stand in the
order in which they were found, by the month that their ids tell and then by line. The month of an
id is not always that of the date: a shift can bring an event to a day of the next month before the
events found there.
-/

namespace RuleCalendar.Schedule

variable {year : Int}

section

variable (hy : 1 ≤ year ∧ year ≤ 9998)
include hy

/-- A line has no two events of one day in a month. -/
theorem date_ne_eventsOn {month : Int} (hm : month ∈ months) (line : RuleLine × Nat) :
    (eventsOn line year month).Pairwise fun e f ↦ e.date ≠ f.date := by
  refine pairwise_eventsOn hy hm line fun _ d d' _ _ hlt heq ↦ ?_
  have hsame : d = d' := heq
  rw [hsame] at hlt
  exact Int.lt_irrefl _ hlt

/-- Of two events of one day, the first was found in an earlier month or on an earlier line. -/
theorem foundBefore_found (lines : List RuleLine) :
    (found lines.zipIdx year).Pairwise fun e f ↦ e.date = f.date → FoundBefore e f := by
  apply pairwise_found
  · intro month hm line
    exact (date_ne_eventsOn hy hm line).imp fun hne heq ↦ absurd heq hne
  · intro e f hbefore _
    exact hbefore

omit hy in
/-- The events of a year are those found by going through the months, within a month through the
lines and within a line through its dates, ordered by date; those of one day stand in the order of
the months that their ids tell, in which they were found, and then of their lines. -/
theorem ofLines_ties (lines : List RuleLine) (hyear : 1 ≤ year ∧ year ≤ 9998) :
    ∃ s : Schedule, ofLines lines year = .ok s ∧
      discover lines year = .ok (found lines.zipIdx year) ∧
      s.events.Perm (found lines.zipIdx year) ∧
      s.events.Pairwise (fun e f ↦ e.date ≤ f.date) ∧
      s.events.Pairwise (fun e f ↦ e.date = f.date → FoundBefore e f) ∧
      ∀ month ∈ months, ∀ line ∈ lines.zipIdx, ∀ e ∈ eventsOn line year month,
        monthOf e.id = month ∧ lineOf e.id = line.2 := by
  refine ⟨_, ofLines_eq_ok hyear lines, ?_, ?_, ?_, ?_, ?_⟩
  · exact discover_eq_ok ⟨hyear.1, by omega⟩ fun _ _ _ _ _ ↦ .inl hyear.2
  · exact Event.sortByDate_perm _
  · exact Event.sortByDate_sorted _
  · exact Event.pairwise_sortByDate (foundBefore_found hyear lines)
  · intro month hm line _ e he
    exact place_of_mem_eventsOn hm he

omit hy in
/-- The last day of July 2022 is a Sunday: a line moves its event to the first of August, where it
comes before the event of a line that stands before it. -/
theorem ofLines_ties_across_months :
    let lines : List RuleLine :=
      [{ name := "Rent", rule := "1" },
        { name := "Close", rule := "31, if weekend then next monday" }]
    ((1 : Int) ≤ 2022 ∧ (2022 : Int) ≤ 9998) ∧
      ∃ s : Schedule, ofLines lines 2022 = .ok s ∧
        discover lines 2022 = .ok (found lines.zipIdx 2022) ∧
        s.events.Perm (found lines.zipIdx 2022) ∧
        s.events.Pairwise (fun e f ↦ e.date ≤ f.date) ∧
        s.events.Pairwise (fun e f ↦ e.date = f.date → FoundBefore e f) ∧
        (∀ month ∈ months, ∀ line ∈ lines.zipIdx, ∀ e ∈ eventsOn line 2022 month,
          monthOf e.id = month ∧ lineOf e.id = line.2) ∧
        ∃ e ∈ s.events, monthOf e.id = 7 ∧ e.date.month = 8 := by
  intro lines
  obtain ⟨s, hs, hfound, hperm, hdates, hties, hplaces⟩ :=
    ofLines_ties lines (show (1 : Int) ≤ 2022 ∧ (2022 : Int) ≤ 9998 by decide)
  have hmoved : ∃ e ∈ found lines.zipIdx 2022, monthOf e.id = 7 ∧ e.date.month = 8 := by
    decide +kernel
  obtain ⟨e, he, hmonths⟩ := hmoved
  exact ⟨by decide, s, hs, hfound, hperm, hdates, hties, hplaces, e, hperm.mem_iff.mpr he, hmonths⟩

end

end RuleCalendar.Schedule
