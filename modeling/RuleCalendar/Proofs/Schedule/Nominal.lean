import RuleCalendar.Proofs.Rule.WellFormed
import RuleCalendar.Proofs.Schedule.Discovery

/-!
# Nominal dates

A day number names a date of the month, and a shift moves it off a weekend, at times into a
neighbouring month or year. Main statement: the events of a year lie between 30 December of the year
before it and 2 January of the year after it, one outside the month of its id was moved from a
weekend date of this month at most two days away, and no event of a rule with a shift is on a
weekend.
-/

namespace RuleCalendar

namespace Rule

variable {r : Rule} {year month : Int}

/-- Whether a date is where a rule moves another date that it names by its day number. -/
structure MovesTo (r : Rule) (n d : Date) : Prop where
  anchor : r.anchor = some .day
  shift : r.shift ≠ .none
  day : r.day = some n.day
  moved : n.shifted r.shift = .ok d
  weekend : ¬n.IsWorkingDay
  near : n.number - 2 ≤ d.number ∧ d.number ≤ n.number + 2

section

variable (hy : 1 ≤ year ∧ year ≤ 9998) (hm : 1 ≤ month ∧ month ≤ 12) {d : Date}
include hy hm

/-- A rule with a shift has in a month the date with its day number, moved. -/
theorem exists_shifted_of_mem_dates (hwell : r.WellPlaced) (hshift : r.shift ≠ .none)
    (hd : d ∈ r.dates year month) :
    ∃ n : Date, n.InMonth year month ∧ r.day = some n.day ∧ n.shifted r.shift = .ok d := by
  have hanchor : r.anchor = some .day := hwell.shift hshift
  obtain ⟨o, ho, hiff⟩ := anchoredDates_day (r := r) ⟨hy.1, by omega⟩ hm (by rw [hanchor]; rfl)
  rw [dates_of_isAnchored (hwell.isAnchored (hanchor ▸ Option.some_ne_none _)) ho] at hd
  split at hd
  · exact (hiff d).mp (Option.mem_toList.mp hd)
  · exact absurd hd List.not_mem_nil

/-- A rule without a shift has its dates of a month in the month itself. -/
theorem inMonth_of_mem_dates (hshift : r.shift = .none) (hd : d ∈ r.dates year month) :
    d.InMonth year month := by
  by_cases hmulti : r.isMulti = true
  · exact ((regularDates_dates hy hm r).distinct hmulti).2 d hd
  by_cases hanchored : r.family.isAnchored = true
  · obtain ⟨ds, hds, hasc⟩ :=
      anchoredDates_ok (r := r) ⟨hy.1, by omega⟩ hm hy.2 fun _ ↦ hshift
    rw [dates_of_isAnchored hanchored hds] at hd
    split at hd
    · exact ((hasc.mem_iff d).mp hd).1
    · exact absurd hd List.not_mem_nil
  · have hfamily : r.family = .unrecognized := by
      cases hf : r.family <;> simp [hf, isMulti, Family.isMulti, Family.isAnchored] at *
    rw [dates, datesIn, hfamily] at hd
    exact absurd hd List.not_mem_nil

/-- A rule has a date outside the month only where it moves one of the month there. -/
theorem movesTo_of_mem_dates (hwell : r.WellPlaced) (hd : d ∈ r.dates year month)
    (hout : ¬d.InMonth year month) : ∃ n : Date, n.InMonth year month ∧ r.MovesTo n d := by
  have hshift : r.shift ≠ .none := by
    intro hnone
    exact hout (inMonth_of_mem_dates hy hm hnone hd)
  obtain ⟨n, hn, hday, hmoved⟩ := exists_shifted_of_mem_dates hy hm hwell hshift hd
  have hweekend : ¬n.IsWorkingDay := by
    intro hwork
    rw [Date.shifted_of_isWorkingDay hwork] at hmoved
    cases hmoved
    exact hout hn
  obtain ⟨e, he, hnear⟩ := n.shifted_ok r.shift
  rw [hmoved] at he
  cases he
  exact ⟨n, hn, hwell.shift hshift, hshift, hday, hmoved, hweekend, hnear⟩

/-- The dates of a rule in the months of a year are not before 30 December of the year before it
and not after 2 January of the year after it. -/
theorem bounds_of_mem_dates (hd : d ∈ r.dates year month) :
    (∀ low, Date.of (year - 1) 12 30 = .ok low → low ≤ d) ∧
      ∃ high, Date.of (year + 1) 1 2 = .ok high ∧ d ≤ high := by
  have hbelongs := (regularDates_dates hy hm r).belongs d hd
  have hnumber := hbelongs.number_bounds ⟨hy.1, by omega⟩ hm
  have hyear := Date.daysBefore_in_year year hm
  constructor
  · intro low hlow
    obtain ⟨hlowYear, hlowMonth, hlowDay⟩ := Date.fields_of hlow
    have hlowNumber := low.number_eq
    have hdecember := daysBefore_december (year - 1)
    rw [Int.sub_add_cancel] at hdecember
    rw [hlowYear, hlowMonth, hlowDay] at hlowNumber
    rw [Date.le_iff]
    omega
  · have hlength := lengthOfMonth_bounds (year + 1) 1
    obtain ⟨high, hhigh, hhighNumber⟩ : ∃ d, Date.of (year + 1) 1 2 = .ok d ∧
        d.number = daysBefore (year + 1) 1 + 2 :=
      Date.of_eq_ok (by omega) (by decide) (by omega)
    refine ⟨high, hhigh, ?_⟩
    rw [daysBefore_january] at hhighNumber
    rw [Date.le_iff]
    omega

end

end Rule

/-! ### The events of a year -/

namespace Schedule

/-- An event is found in the month that its id tells, on one of the dates that the rule of the line
that its id tells has there. -/
theorem mem_dates_of_mem_found {lines : List RuleLine} {year : Int} {e : Event}
    (he : e ∈ found lines.zipIdx year) : monthOf e.id ∈ months ∧ ∃ line,
      lines[lineOf e.id]? = some line ∧ e.date ∈ line.toRule.dates year (monthOf e.id) := by
  obtain ⟨month, hm, ⟨line, index⟩, hline, hon⟩ := mem_found.mp he
  obtain ⟨hmonth, hindex⟩ := place_of_mem_eventsOn hm hon
  obtain ⟨d, hd, rfl⟩ := List.mem_map.mp hon
  rw [hmonth, hindex]
  exact ⟨hm, line, List.mem_zipIdx_iff_getElem?.mp hline, hd⟩

/-- The events of a year lie between 30 December of the year before it and 2 January of the year
after it. The date of each is one that the rule of its line has in the month of its id; it is
outside the month only where the rule moves a date of the month there, and a rule with a shift has
all its dates on working days. -/
theorem ofLines_near_nominal (lines : List RuleLine) (year : Int)
    (hyear : 1 ≤ year ∧ year ≤ 9998) :
    ∃ s : Schedule, ofLines lines year = .ok s ∧ ∀ e ∈ s.events,
      (∀ low, Date.of (year - 1) 12 30 = .ok low → low ≤ e.date) ∧
      (∃ high, Date.of (year + 1) 1 2 = .ok high ∧ e.date ≤ high) ∧
      ∃ line, lines[lineOf e.id]? = some line ∧
        e.date ∈ line.toRule.dates year (monthOf e.id) ∧
        (¬e.date.InMonth year (monthOf e.id) →
          ∃ n : Date, n.InMonth year (monthOf e.id) ∧ line.toRule.MovesTo n e.date) ∧
        (line.toRule.shift ≠ .none → e.date.IsWorkingDay) := by
  refine ⟨_, ofLines_eq_ok hyear lines, fun e he ↦ ?_⟩
  obtain ⟨hm, line, hline, hd⟩ := mem_dates_of_mem_found (Event.mem_sortByDate.mp he)
  have hmonth := month_bounds hm
  have hwell : line.toRule.WellPlaced := Rule.wellPlaced_ofText line.rule.toList
  obtain ⟨hlow, hhigh⟩ := Rule.bounds_of_mem_dates hyear hmonth hd
  refine ⟨hlow, hhigh, line, hline, hd, ?_, ?_⟩
  · intro hout
    exact Rule.movesTo_of_mem_dates hyear hmonth hwell hd hout
  · intro hshift
    obtain ⟨n, -, -, hmoved⟩ := Rule.exists_shifted_of_mem_dates hyear hmonth hwell hshift hd
    exact Date.isWorkingDay_of_shifted hshift hmoved

/-- The last day of 2022 is a Saturday and the first of 2023 a Sunday: the last event of the year is
on the second of the next. -/
theorem ofLines_near_nominal_year_end :
    let lines : List RuleLine := [{ name := "Close", rule := "31, if weekend then next monday" }]
    ((1 : Int) ≤ 2022 ∧ (2022 : Int) ≤ 9998) ∧
      ∃ s : Schedule, ofLines lines 2022 = .ok s ∧ (∃ e ∈ s.events, e.date.year = 2023) ∧
        ∀ e ∈ s.events,
          (∀ low, Date.of (2022 - 1) 12 30 = .ok low → low ≤ e.date) ∧
          (∃ high, Date.of (2022 + 1) 1 2 = .ok high ∧ e.date ≤ high) ∧
          ∃ line, lines[lineOf e.id]? = some line ∧
            e.date ∈ line.toRule.dates 2022 (monthOf e.id) ∧
            (¬e.date.InMonth 2022 (monthOf e.id) →
              ∃ n : Date, n.InMonth 2022 (monthOf e.id) ∧ line.toRule.MovesTo n e.date) ∧
            (line.toRule.shift ≠ .none → e.date.IsWorkingDay) := by
  intro lines
  obtain ⟨s, hs, hevents⟩ := ofLines_near_nominal lines 2022 (by decide)
  have hnext : ∃ e ∈ found lines.zipIdx 2022, e.date.year = 2023 := by decide +kernel
  obtain ⟨e, he, heyear⟩ := hnext
  have hsorted := hs
  rw [ofLines_eq_ok (by decide)] at hsorted
  cases hsorted
  exact ⟨by decide, _, hs, ⟨e, Event.mem_sortByDate.mpr he, heyear⟩, hevents⟩

end Schedule

end RuleCalendar
