import RuleCalendar.Proofs.Rule.Dates
import RuleCalendar.Proofs.Schedule.Identifier
import RuleCalendar.Proofs.Schedule.Order
import RuleCalendar.Proofs.Schedule.Search

/-!
# The discovery of events

No search for events fails but one that looks for a date beyond the last month of the calendar. Main
statements: the events of a year are those found by going through the months, within a month through
the lines and within a line through its dates, sorted by date; and what holds between the events of
a line in a month and between events found one before the other holds between all.
-/

namespace RuleCalendar.Schedule

/-- The events found on one line in a month. -/
def eventsOn (line : RuleLine × Nat) (year month : Int) : List Event :=
  (line.1.toRule.dates year month).map (eventOn line.2 line.1 line.1.toRule month)

/-- The events found on numbered lines in a year, in the order in which they are found. -/
def found (lines : List (RuleLine × Nat)) (year : Int) : List Event :=
  months.flatMap fun month ↦ lines.flatMap fun line ↦ eventsOn line year month

/-- The months of a year are those from 1 to 12. -/
theorem mem_months_iff {month : Int} : month ∈ months ↔ 1 ≤ month ∧ month ≤ 12 := by
  simp only [months, List.mem_cons, List.not_mem_nil, or_false]
  omega

/-- A month of a year is one of twelve. -/
theorem month_bounds {month : Int} (h : month ∈ months) : 1 ≤ month ∧ month ≤ 12 :=
  mem_months_iff.mp h

/-- An event is found in one month, on one line and on one date of the line's rule. -/
theorem mem_found {lines : List (RuleLine × Nat)} {year : Int} {e : Event} :
    e ∈ found lines year ↔ ∃ month ∈ months, ∃ line ∈ lines, e ∈ eventsOn line year month := by
  simp only [found, List.mem_flatMap]

/-- The ids of events are made of digits and hyphens. -/
theorem not_mem_id_of_mem_found {lines : List (RuleLine × Nat)} {year : Int} {e : Event}
    (h : e ∈ found lines year) {c : Char} (hdigit : c.isDigit = false) (hhyphen : c ≠ '-') :
    c ∉ e.id.toList := by
  obtain ⟨month, hm, line, -, he⟩ := mem_found.mp h
  obtain ⟨d, -, rfl⟩ := List.mem_map.mp he
  have hmonth := month_bounds hm
  have hday := d.day_bounds
  exact not_mem_eventId (by omega) (by omega) hdigit hhyphen

/-! ### Events in the order in which they are found -/

/-- The id of an event tells the month in which and the line on which it was found. -/
theorem place_of_mem_eventsOn {year month : Int} (hm : month ∈ months) {line : RuleLine × Nat}
    {e : Event} (he : e ∈ eventsOn line year month) :
    monthOf e.id = month ∧ lineOf e.id = line.2 := by
  obtain ⟨d, -, rfl⟩ := List.mem_map.mp he
  have hmonth := month_bounds hm
  have hday := d.day_bounds
  constructor
  · exact monthOf_eventId (by omega) (by omega)
  · exact lineOf_eventId (by omega) (by omega)

/-- Whether an event was found before another, by what their ids tell: in an earlier month, or in
the same month on an earlier line. -/
def FoundBefore (e f : Event) : Prop :=
  monthOf e.id < monthOf f.id ∨ monthOf e.id = monthOf f.id ∧ lineOf e.id < lineOf f.id

section

variable {year : Int} {R : Event → Event → Prop}

/-- A line has one event in a month, or its rule gives distinct dates of the month: what holds
between the events of these holds between all events of the line in the month. -/
theorem pairwise_eventsOn (hy : 1 ≤ year ∧ year ≤ 9998) {month : Int} (hm : month ∈ months)
    (line : RuleLine × Nat)
    (h : line.1.toRule.isMulti = true → ∀ d d' : Date, d.InMonth year month →
      d'.InMonth year month → d < d' → R (eventOn line.2 line.1 line.1.toRule month d)
        (eventOn line.2 line.1 line.1.toRule month d')) :
    (eventsOn line year month).Pairwise R := by
  have hregular := Rule.regularDates_dates hy (month_bounds hm) line.1.toRule
  rw [eventsOn, List.pairwise_map]
  cases hmulti : line.1.toRule.isMulti with
  | true =>
    obtain ⟨hascending, hin⟩ := hregular.distinct hmulti
    exact hascending.imp_of_mem fun hd hd' hlt ↦ h hmulti _ _ (hin _ hd) (hin _ hd') hlt
  | false =>
    have hone := hregular.length_le hmulti
    match hdates : line.1.toRule.dates year month with
    | [] => exact .nil
    | [d] => exact List.pairwise_singleton _ _
    | d :: d' :: ds =>
      rw [hdates] at hone
      simp at hone

/-- What holds between the events of each line in each month, and between events found one before
the other, holds between all events of a year in the order in which they are found. -/
theorem pairwise_found (lines : List RuleLine)
    (hline : ∀ month ∈ months, ∀ line, (eventsOn line year month).Pairwise R)
    (hbefore : ∀ e f, FoundBefore e f → R e f) : (found lines.zipIdx year).Pairwise R := by
  rw [found, List.pairwise_flatMap]
  constructor
  · intro month hm
    have hlines : lines.zipIdx.Pairwise fun l l' ↦ l.2 < l'.2 := by
      rw [← List.pairwise_map (f := Prod.snd) (R := (· < ·)), List.zipIdx_map_snd]
      exact List.pairwise_lt_range'
    rw [List.pairwise_flatMap]
    refine ⟨fun line _ ↦ hline month hm line, hlines.imp fun hlt e he f hf ↦ ?_⟩
    obtain ⟨hmonth, hindex⟩ := place_of_mem_eventsOn hm he
    obtain ⟨hmonth', hindex'⟩ := place_of_mem_eventsOn hm hf
    apply hbefore
    right
    rw [hmonth, hmonth', hindex, hindex']
    exact ⟨rfl, hlt⟩
  · have hmonths : months.Pairwise (· < ·) := by decide
    refine hmonths.imp_of_mem fun hm hm' hlt e he f hf ↦ ?_
    obtain ⟨line, -, he⟩ := List.mem_flatMap.mp he
    obtain ⟨line', -, hf⟩ := List.mem_flatMap.mp hf
    apply hbefore
    left
    rw [(place_of_mem_eventsOn hm he).1, (place_of_mem_eventsOn hm' hf).1]
    exact hlt

end

/-! ### Searches that succeed -/

section

variable {year : Int} {lines : List RuleLine} (hy : 1 ≤ year ∧ year ≤ 9999)
    (hnext : ∀ line ∈ lines, ∀ month ∈ months,
      line.toRule.LooksBeyond month → HasNextMonth year month)
include hy hnext

/-- No search for events fails. -/
theorem discover_eq_ok : discover lines year = .ok (found lines.zipIdx year) := by
  have hline : ∀ month ∈ months, ∀ line ∈ lines.zipIdx,
      eventsOf line.2 line.1 line.1.toRule year month = .ok (eventsOn line year month) := by
    intro month hm line hline
    have hmem := List.fst_mem_of_mem_zipIdx hline
    rw [eventsOf, Rule.datesIn_eq_dates_of_next hy (month_bounds hm) _ (hnext _ hmem _ hm), ok_bind]
    rfl
  have hmonths : ∀ month ∈ months, eventsOfAll (ruled lines) year month =
      .ok (lines.zipIdx.map fun line ↦ eventsOn line year month) := by
    intro month hm
    rw [eventsOfAll, ruled, List.mapM_map]
    exact mapM_eq_ok (hline month hm)
  rw [discover_eq, mapM_eq_ok hmonths, ok_bind]
  simp only [found, List.flatMap_def, List.flatten_flatten, List.map_map]
  rfl

/-- The events of a year are the found ones, sorted by date, where no line's search looks beyond the
calendar. -/
theorem ofLines_eq_ok_of_next : ofLines lines year =
    .ok { events := Event.sortByDate (found lines.zipIdx year), unknown := unknownRules lines } := by
  rw [ofLines_eq, discover_eq_ok hy hnext, ok_bind]
  rfl

end

/-- Before the last year of the calendar, the events of a year are the found ones, sorted by date. -/
theorem ofLines_eq_ok {year : Int} (hy : 1 ≤ year ∧ year ≤ 9998) (lines : List RuleLine) :
    ofLines lines year =
      .ok { events := Event.sortByDate (found lines.zipIdx year), unknown := unknownRules lines } :=
  ofLines_eq_ok_of_next ⟨hy.1, by omega⟩ fun _ _ _ _ _ ↦ .inl hy.2

end RuleCalendar.Schedule
