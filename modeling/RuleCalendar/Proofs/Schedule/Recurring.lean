import RuleCalendar.Proofs.Date.Year
import RuleCalendar.Proofs.Rule.WellFormed
import RuleCalendar.Proofs.Schedule.Discovery

/-!
# Rules that recur within the month

A rule that can have several dates in a month has in each month the dates of one kind: all of them,
those on its weekday, every other one of these, or the working days. Main statement: a line with
such a rule has in a year exactly the dates of the year of this kind, each once and in order, those
on a weekday week by week or fortnight by fortnight.
-/

namespace RuleCalendar

/-! ### Working days -/

/-- A single date is no rule for working days. -/
theorem SingleDate.family_ne_businessDay (s : List Char) :
    (Rule.ofSingleDate s).family ≠ .businessDay := by
  obtain hunrecognized | ⟨name, hanswer⟩ := ofSingleDate_cases s
  · rw [hunrecognized]
    decide
  · rw [hanswer.family]
    decide

/-- Only one entry makes rules for working days. -/
theorem RuleEntry.eq_businessDay {entry : RuleEntry} {s : List Char} (hentry : entry ∈ ruleTable)
    (h : (entry.rule s).family = .businessDay) : entry = .businessDay := by
  simp only [ruleTable, List.mem_cons, List.not_mem_nil, or_false] at hentry
  rcases hentry with rfl | rfl | rfl | rfl | rfl | rfl | rfl | rfl | rfl | rfl | rfl | rfl
  · cases h
  · cases h
  · simp [monthly] at h
  · cases h
  · cases h
  · simp [quarterly] at h
  · simp [semiannual] at h
  · simp [annual] at h
  · cases h
  · simp only [ordinalWeekday] at h
    split at h
    · cases h
    · cases h
  · rfl
  · exact absurd h (SingleDate.family_ne_businessDay s)

namespace Rule

/-- Every text gives a well-formed rule, which has dates in every month if it is for working
days. -/
theorem wellFormed_and_coversMonth (t : List Char) : (Rule.ofText t).WellFormed ∧
    ((Rule.ofText t).family = .businessDay →
      ∀ year month, (Rule.ofText t).coversMonth year month = true) := by
  refine Rule.ofText_cases (p := fun r ↦ r.WellFormed ∧
    (r.family = .businessDay → ∀ year month, r.coversMonth year month = true)) ?_ ?_ t
  · exact ⟨wellFormed_unrecognized, nofun⟩
  · intro entry hentry s happlies
    refine ⟨RuleEntry.wellFormed_rule hentry happlies, fun h year month ↦ ?_⟩
    rw [RuleEntry.eq_businessDay hentry h]
    simp [RuleEntry.businessDay, coversMonth, appliesTo]

/-! ### One month -/

variable {r : Rule} {year month : Int}

/-- Whether a date is of the kind that a rule which recurs within the month has. -/
def FallsOn (r : Rule) (d : Date) : Prop :=
  match r.family with
  | .daily => r.excludeWeekends = true → d.IsWorkingDay
  | .weekly | .weekday => r.weekday = some d.weekday
  | .biweekly => r.weekday = some d.weekday ∧ d.InOddWeek
  | .businessDay => d.IsWorkingDay
  | _ => False

/-- Rules that can have several dates in a month are of a family that has, or for all working
days. -/
theorem family_of_isMulti (hwell : r.WellFormed) (h : r.isMulti = true) :
    r.family.isMulti = true ∨ r.family = .businessDay ∧ r.anchor = some .everyWorkingDay := by
  simp only [isMulti, Bool.or_eq_true, beq_iff_eq] at h
  exact h.imp_right fun hanchor ↦ ⟨hwell.everyWorkingDay hanchor, hanchor⟩

private theorem fallsOn_iff_of_weekly {d : Date} (h : r.family = .weekly ∨ r.family = .weekday) :
    r.FallsOn d ↔ r.weekday = some d.weekday := by
  obtain h | h := h <;> simp only [FallsOn, h]

private theorem fallsOn_iff_of_biweekly {d : Date} (h : r.family = .biweekly) :
    r.FallsOn d ↔ r.weekday = some d.weekday ∧ d.InOddWeek := by
  simp only [FallsOn, h]

private theorem WellFormed.exists_weekday (hwell : r.WellFormed)
    (h : (r.family = .weekly ∨ r.family = .weekday) ∨ r.family = .biweekly) :
    ∃ n, r.weekday = some n := by
  have hfamily : r.family ∈ [.weekly, .weekday, .biweekly] := by
    simpa [or_assoc] using h
  exact Option.isSome_iff_exists.mp (hwell.weekday.mpr (.inl hfamily))

/-- The weekday that the dates of a rule fall on is the one that it has. -/
theorem weekday_eq_iff (hwell : r.WellFormed)
    (h : (r.family = .weekly ∨ r.family = .weekday) ∨ r.family = .biweekly) (d : Date) :
    d.weekday = r.weekday.getD 0 % 7 ↔ r.weekday = some d.weekday := by
  obtain ⟨n, hn⟩ := hwell.exists_weekday h
  have hbounds := hwell.weekday_bounds n hn
  rw [hn, Option.getD_some, Option.some.injEq, Int.emod_eq_of_lt hbounds.1 (by omega), eq_comm]

private theorem ascending_dates {p : Date → Prop}
    (h : ∃ ds, r.datesIn year month = .ok ds ∧ AscendingListOf ds p) :
    AscendingListOf (r.dates year month) p := by
  obtain ⟨ds, hds, hasc⟩ := h
  rwa [dates, hds]

/-- A rule that recurs within the month has all dates of the month of its kind. -/
theorem dates_of_isMulti (hwell : r.WellFormed) (h : r.isMulti = true)
    (hcovers : r.family = .businessDay → r.coversMonth year month = true)
    (hy : 1 ≤ year ∧ year ≤ 9998) (hm : 1 ≤ month ∧ month ≤ 12) :
    AscendingListOf (r.dates year month) fun d ↦ d.InMonth year month ∧ r.FallsOn d := by
  have hy' : 1 ≤ year ∧ year ≤ 9999 := ⟨hy.1, by omega⟩
  obtain hfamily | ⟨hfamily, hanchor⟩ := family_of_isMulti hwell h
  · cases hf : r.family with
    | daily =>
      refine (ascending_dates (datesIn_of_daily hy' hm (.inl hy.2) hf)).congr fun d ↦ ?_
      simp only [FallsOn, hf]
    | weekly =>
      refine (ascending_dates (datesIn_of_weekly hy' hm (.inl hy.2) (.inl hf))).congr fun d ↦ ?_
      rw [weekday_eq_iff hwell (.inl (.inl hf)), fallsOn_iff_of_weekly (.inl hf)]
    | weekday =>
      refine (ascending_dates (datesIn_of_weekly hy' hm (.inl hy.2) (.inr hf))).congr fun d ↦ ?_
      rw [weekday_eq_iff hwell (.inl (.inr hf)), fallsOn_iff_of_weekly (.inr hf)]
    | biweekly =>
      refine (ascending_dates (datesIn_of_biweekly hy' hm (.inl hy.2) hf)).congr fun d ↦ ?_
      rw [weekday_eq_iff hwell (.inr hf), d.mod_fourteen_lt_iff, fallsOn_iff_of_biweekly hf]
    | _ => simp [hf, Family.isMulti] at hfamily
  · have hanchored : r.family.isAnchored = true := by rw [hfamily]; rfl
    have hdates : r.datesIn year month = workingDays year month := by
      rw [datesIn_of_isAnchored hanchored, if_pos (hcovers hfamily), anchoredDates, hanchor]
      rfl
    refine (ascending_dates (hdates ▸ workingDays_ok hy' hm)).congr fun d ↦ ?_
    simp only [FallsOn, hfamily]

end Rule

/-! ### The year -/

namespace Schedule

variable {year : Int} {line : RuleLine}

/-- The dates of the events of a single line, in the order in which they are found. -/
theorem map_date_found (line : RuleLine) (year : Int) :
    (found [line].zipIdx year).map Event.date = months.flatMap (line.toRule.dates year) := by
  simp only [found, eventsOn, List.zipIdx_cons, List.zipIdx_nil, List.flatMap_cons,
    List.flatMap_nil, List.append_nil, List.map_flatMap, List.map_map]
  refine List.flatMap_congr fun month _ ↦ ?_
  exact (List.map_congr_left fun d _ ↦ rfl).trans (List.map_id _)

/-- A line that recurs within the month has in a year all dates of the year of its kind; those on a
weekday follow each other week by week, those on every other one fortnight by fortnight. -/
theorem ofLines_recurring (h : line.toRule.isMulti = true) (hyear : 1 ≤ year ∧ year ≤ 9998) :
    ∃ s : Schedule, ofLines [line] year = .ok s ∧
      AscendingListOf (s.events.map Event.date)
        (fun d ↦ d.year = year ∧ line.toRule.FallsOn d) ∧
      (line.toRule.family = .weekly ∨ line.toRule.family = .weekday →
        (s.events.map Event.date).IsChain fun d e ↦ e.number = d.number + 7) ∧
      (line.toRule.family = .biweekly →
        (s.events.map Event.date).IsChain fun d e ↦ e.IsFortnightAfter d) := by
  obtain ⟨hwell, hcovers⟩ : line.toRule.WellFormed ∧ (line.toRule.family = .businessDay →
      ∀ year month, line.toRule.coversMonth year month = true) :=
    Rule.wellFormed_and_coversMonth line.rule.toList
  have hasc : AscendingListOf (months.flatMap (line.toRule.dates year))
      fun d ↦ d.year = year ∧ line.toRule.FallsOn d :=
    .flatMap (by decide) (fun m ↦ ⟨month_bounds, fun hm ↦ by simp [months]; omega⟩)
      fun m hm ↦ Rule.dates_of_isMulti hwell h (hcovers · year m) hyear (month_bounds hm)
  rw [← map_date_found] at hasc
  have hsorted : (found [line].zipIdx year).Pairwise fun e f ↦ e.date ≤ f.date :=
    (List.pairwise_map.mp hasc.ascending).imp Int.le_of_lt
  refine ⟨_, ofLines_eq_ok hyear [line], ?_⟩
  rw [Event.sortByDate_of_sorted hsorted]
  refine ⟨hasc, fun hfamily ↦ ?_, fun hfamily ↦ ?_⟩
  · obtain ⟨n, hn⟩ := hwell.exists_weekday (.inl hfamily)
    have hweekday (d : Date) : line.toRule.FallsOn d ↔ d.weekday = n := by
      rw [Rule.fallsOn_iff_of_weekly hfamily, hn, Option.some.injEq, eq_comm]
    exact (hasc.congr fun d ↦ and_congr_right fun _ ↦ hweekday d).isChain_week
  · obtain ⟨n, hn⟩ := hwell.exists_weekday (.inr hfamily)
    have hweekday (d : Date) : line.toRule.FallsOn d ↔ d.weekday = n ∧ d.InOddWeek := by
      rw [Rule.fallsOn_iff_of_biweekly hfamily, hn, Option.some.injEq, eq_comm]
    exact (hasc.congr fun d ↦ and_congr_right fun _ ↦ hweekday d).isChain_fortnight hyear

/-- Every other Friday of a leap year that has five in March, May, August and November. -/
theorem ofLines_biweekly_friday :
    let line : RuleLine := { name := "Payroll", rule := "biweekly on friday" }
    (line.toRule.isMulti = true ∧ (1 : Int) ≤ 2024 ∧ (2024 : Int) ≤ 9998) ∧
      ∃ s : Schedule, ofLines [line] 2024 = .ok s ∧
        AscendingListOf (s.events.map Event.date)
          (fun d ↦ d.year = 2024 ∧ line.toRule.FallsOn d) ∧
        (line.toRule.family = .weekly ∨ line.toRule.family = .weekday →
          (s.events.map Event.date).IsChain fun d e ↦ e.number = d.number + 7) ∧
        (line.toRule.family = .biweekly →
          (s.events.map Event.date).IsChain fun d e ↦ e.IsFortnightAfter d) := by
  have h : ({ name := "Payroll", rule := "biweekly on friday" } : RuleLine).toRule.isMulti =
      true := by
    decide +kernel
  exact ⟨⟨h, by decide⟩, ofLines_recurring h (by decide)⟩

end Schedule

end RuleCalendar
