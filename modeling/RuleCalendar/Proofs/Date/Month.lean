import RuleCalendar.Proofs.Date.Shift

/-!
# The dates of a month

What is found in a month, as ascending lists of the dates with a property or as the only date with
one: all dates, the working days, those on a weekday, and the first, the last or the one of a given
rank among them. A walk looks one step beyond the month, so that it succeeds in every month but the
last of the calendar, and fails there.
-/

namespace RuleCalendar

variable {year month : Int} (hy : 1 ≤ year ∧ year ≤ 9999) (hm : 1 ≤ month ∧ month ≤ 12)

section

include hy hm

/-- A month of the calendar starts with the day after those before the month. -/
theorem monthStart_ok :
    ∃ d, monthStart year month = .ok d ∧ d.number = daysBefore year month + 1 :=
  Date.of_eq_ok hy hm (by have := lengthOfMonth_bounds year month; omega)

/-- A month of the calendar ends after as many days as it has. -/
theorem monthEnd_ok : ∃ d, monthEnd year month = .ok d ∧
    d.number = daysBefore year month + lengthOfMonth year month := by
  have hlength := lengthOfMonth_bounds year month
  simp only [monthEnd, daysInMonth_eq hm]
  exact Date.of_eq_ok hy hm (by omega)

/-- The end of a month is its last date. -/
theorem monthEnd_greatest : ∃ d, monthEnd year month = .ok d ∧ d.InMonth year month ∧
    ∀ e : Date, e.InMonth year month → e ≤ d := by
  have hlength := lengthOfMonth_bounds year month
  obtain ⟨last, hlast, hn⟩ := monthEnd_ok hy hm
  refine ⟨last, hlast, (Date.inMonth_iff hy hm).2 (by omega), fun e he ↦ ?_⟩
  rw [Date.inMonth_iff hy hm] at he
  rw [Date.le_iff]
  omega

/-- All dates of a month. -/
theorem datesOfMonth_ok :
    ∃ ds, datesOfMonth year month = .ok ds ∧ AscendingListOf ds (·.InMonth year month) := by
  have hlength := lengthOfMonth_bounds year month
  have hbounds := Date.daysBefore_bounds hy hm
  obtain ⟨first, hfirst, hn⟩ := monthStart_ok hy hm
  obtain ⟨ds, hds, hnumbers⟩ := first.mapM_addDays (fun i ↦ (i : Int))
    (lengthOfMonth year month).toNat (by omega)
  refine ⟨ds, ?_, ?_⟩
  · simp only [datesOfMonth, hfirst, daysInMonth_eq hm]
    exact hds
  · refine (Date.ascendingListOf_numbers hnumbers (by omega)).congr fun d ↦ ?_
    rw [Date.inMonth_iff hy hm]
    constructor
    · rintro ⟨i, hi, hd⟩
      omega
    · intro h
      exact ⟨(d.number - first.number).toNat, by omega, by omega⟩

/-- The working days of a month. -/
theorem workingDays_ok : ∃ ds, workingDays year month = .ok ds ∧
    AscendingListOf ds fun d ↦ d.InMonth year month ∧ d.IsWorkingDay := by
  obtain ⟨ds, hds, hasc⟩ := datesOfMonth_ok hy hm
  refine ⟨ds.filter (!·.isWeekend), ?_, ?_⟩
  · simp only [workingDays, hds]
    rfl
  · refine (hasc.filter _).congr fun d ↦ ?_
    rw [Date.not_isWeekend_iff]

/-- The first working day of a month. -/
theorem firstWorkingDay_ok : ∃ d, firstWorkingDay year month = .ok d ∧
    (d.InMonth year month ∧ d.IsWorkingDay) ∧
      ∀ e : Date, e.InMonth year month ∧ e.IsWorkingDay → d ≤ e := by
  have hlength := lengthOfMonth_bounds year month
  obtain ⟨start, hstart, hn⟩ := monthStart_ok hy hm
  obtain ⟨d, hd, hwork, hle, hle', hmin⟩ := start.onToMonday_ok
  refine ⟨d, ?_, ⟨(Date.inMonth_iff hy hm).2 (by omega), hwork⟩, ?_⟩
  · simp only [firstWorkingDay, hstart]
    exact hd
  · rintro e ⟨he, hework⟩
    rw [Date.inMonth_iff hy hm] at he
    exact hmin e (by omega) hework

/-- The last working day of a month. -/
theorem lastWorkingDay_ok : ∃ d, lastWorkingDay year month = .ok d ∧
    (d.InMonth year month ∧ d.IsWorkingDay) ∧
      ∀ e : Date, e.InMonth year month ∧ e.IsWorkingDay → e ≤ d := by
  have hlength := lengthOfMonth_bounds year month
  obtain ⟨last, hlast, hn⟩ := monthEnd_ok hy hm
  obtain ⟨d, hd, hwork, hge, hge', hmax⟩ := last.backToFriday_ok
  refine ⟨d, ?_, ⟨(Date.inMonth_iff hy hm).2 (by omega), hwork⟩, ?_⟩
  · simp only [lastWorkingDay, hlast]
    exact hd
  · rintro e ⟨he, hework⟩
    rw [Date.inMonth_iff hy hm] at he
    exact hmax e (by omega) hework

/-- The working day with a number of working days of its month before it. -/
theorem nthWorkingDay_ok (n : Int) : ∃ o, nthWorkingDay year month n = .ok o ∧
    ∀ d, o = some d ↔ (d.InMonth year month ∧ d.IsWorkingDay) ∧
      (rankAmong (fun e ↦ e.InMonth year month ∧ e.IsWorkingDay) d : Int) = n := by
  obtain ⟨ds, hds, hasc⟩ := workingDays_ok hy hm
  refine ⟨if 0 ≤ n then ds[n.toNat]? else none, ?_, fun d ↦ ?_⟩
  · simp only [nthWorkingDay, hds]
    rfl
  · split
    · next hn =>
      rw [hasc.getElem?_eq_some_iff]
      exact and_congr_right fun _ ↦ by omega
    · next hn =>
      constructor
      · intro h
        cases h
      · rintro ⟨-, hrank⟩
        omega

end

section

variable (hnext : HasNextMonth year month) (weekday : Int)
include hy hm hnext

/-- The walk through a month on a weekday begins in its first seven days. -/
theorem weekdaysOfMonth_walk (step : Int) (hstep : 0 < step) (hstep' : step ≤ 31) :
    ∃ ds, ∃ first last : Date, weekdaysOfMonth year month weekday step = .ok ds ∧
      last.number = daysBefore year month + lengthOfMonth year month ∧
      first.weekday = weekday % 7 ∧ daysBefore year month < first.number ∧
      first.number ≤ daysBefore year month + 7 ∧
      ds.map Date.number = (List.range ((last.number - first.number) / step + 1).toNat).map
        fun (i : Nat) ↦ first.number + i * step := by
  have hlength := lengthOfMonth_bounds year month
  have hroom := Date.daysBefore_le_of_next hy hm hnext
  have hbounds := Date.daysBefore_bounds hy hm
  obtain ⟨start, hstart, hs⟩ := monthStart_ok hy hm
  obtain ⟨last, hlast, hl⟩ := monthEnd_ok hy hm
  have hweekday := start.weekday_eq
  obtain ⟨first, hfirst, hf⟩ :=
    Date.addDays_ok (d := start) (k := (weekday - start.weekday) % 7) (by omega)
  obtain ⟨ds, hds, hnumbers⟩ := first.walk_ok last hstep hstep' (by omega)
  refine ⟨ds, first, last, ?_, hl, ?_, by omega, by omega, hnumbers⟩
  · rw [weekdaysOfMonth, hstart, ok_bind, hfirst, ok_bind, hlast, ok_bind, hds]
  · rw [first.weekday_eq]
    omega

/-- The dates of a month on a weekday: with steps of one week all of them, with steps of two those
in the first seven of every fourteen days of the month. -/
theorem weekdaysOfMonth_ok {step : Int} (hstep : step = 7 ∨ step = 14) :
    ∃ ds, weekdaysOfMonth year month weekday step = .ok ds ∧ AscendingListOf ds fun d ↦
      d.InMonth year month ∧ d.weekday = weekday % 7 ∧ (d.day - 1) % step < 7 := by
  obtain ⟨ds, first, last, hds, hl, hweekday, hlow, hhigh, hnumbers⟩ :=
    weekdaysOfMonth_walk hy hm hnext weekday step (by omega) (by omega)
  refine ⟨ds, hds, (Date.walk_ascending (by omega) hnumbers).congr fun d ↦ ?_⟩
  rw [first.weekday_eq] at hweekday
  rw [d.weekday_eq, Date.le_iff, Date.le_iff]
  by_cases hd : d.InMonth year month
  · rw [hd.day_eq]
    rw [Date.inMonth_iff hy hm] at hd ⊢
    obtain rfl | rfl := hstep <;> omega
  · refine iff_of_false (fun h ↦ hd ?_) fun h ↦ hd h.1
    rw [Date.inMonth_iff hy hm]
    omega

/-- The date of a month on a weekday that falls among seven days of a rank. -/
theorem nthWeekdayOfMonth_ok (n : Int) : ∃ o, nthWeekdayOfMonth year month weekday n = .ok o ∧
    ∀ d, o = some d ↔ d.InMonth year month ∧ d.weekday = weekday % 7 ∧
      7 * n < d.day ∧ d.day ≤ 7 * (n + 1) := by
  obtain ⟨ds, first, last, hds, hl, hweekday, hlow, hhigh, hnumbers⟩ :=
    weekdaysOfMonth_walk hy hm hnext weekday 7 (by omega) (by omega)
  refine ⟨if 0 ≤ n then ds[n.toNat]? else none, ?_, fun d ↦ ?_⟩
  · simp only [nthWeekdayOfMonth, hds]
    rfl
  rw [first.weekday_eq] at hweekday
  rw [d.weekday_eq]
  split
  · next hn =>
    rw [Date.getElem?_numbers hnumbers]
    by_cases hd : d.InMonth year month
    · rw [hd.day_eq]
      rw [Date.inMonth_iff hy hm] at hd ⊢
      omega
    · refine iff_of_false (fun h ↦ hd ?_) fun h ↦ hd h.1
      rw [Date.inMonth_iff hy hm]
      omega
  · next hn =>
    refine iff_of_false (fun h ↦ nomatch h) fun h ↦ ?_
    have hday := h.1.day_eq
    rw [Date.inMonth_iff hy hm] at h
    omega

/-- The last date of a month on a weekday is the one among the month's last seven days. -/
theorem lastWeekdayOfMonth_ok : ∃ o, lastWeekdayOfMonth year month weekday = .ok o ∧
    ∀ d, o = some d ↔ d.InMonth year month ∧ d.weekday = weekday % 7 ∧
      lengthOfMonth year month - 7 < d.day := by
  have hlength := lengthOfMonth_bounds year month
  obtain ⟨ds, hds, hasc⟩ := weekdaysOfMonth_ok hy hm hnext weekday (.inl rfl)
  refine ⟨ds.getLast?, ?_, fun d ↦ ?_⟩
  · simp only [lastWeekdayOfMonth, hds]
    rfl
  rw [hasc.getLast?_eq_some_iff]
  constructor
  · rintro ⟨⟨hd, hw, -⟩, hmax⟩
    refine ⟨hd, hw, ?_⟩
    by_contra hearly
    have hbounds := Date.daysBefore_bounds hy hm
    have hday := hd.day_eq
    rw [Date.inMonth_iff hy hm] at hd
    obtain ⟨e, -, hn⟩ := Date.addDays_ok (d := d) (k := 7) (by omega)
    have he := hmax e ⟨(Date.inMonth_iff hy hm).2 (by omega), by
      rw [e.weekday_eq]; rw [d.weekday_eq] at hw; omega, by omega⟩
    rw [Date.le_iff] at he
    omega
  · rintro ⟨hd, hw, hlate⟩
    refine ⟨⟨hd, hw, by omega⟩, ?_⟩
    rintro e ⟨he, hwe, -⟩
    rw [hd.day_eq] at hlate
    rw [Date.inMonth_iff hy hm] at hd he
    rw [d.weekday_eq] at hw
    rw [e.weekday_eq] at hwe
    rw [Date.le_iff]
    omega

end

/-! ### The last month -/

section

variable (weekday : Int)

/-- The last month of the calendar ends with the last date there is. -/
theorem monthEnd_last : ∃ d, monthEnd 9999 12 = .ok d ∧ d.number = 3652059 :=
  monthEnd_ok (by decide) (by decide)

/-- A walk through the last month on a weekday looks beyond the calendar. -/
theorem weekdaysOfMonth_last {step : Int} (hstep : 0 < step) (hstep' : step ≤ 31) :
    weekdaysOfMonth 9999 12 weekday step = .error .beyondCalendar := by
  have hbefore : daysBefore 9999 12 = 3652028 := by decide
  obtain ⟨start, hstart, hs⟩ : ∃ d, monthStart 9999 12 = .ok d ∧
      d.number = daysBefore 9999 12 + 1 := monthStart_ok (by decide) (by decide)
  obtain ⟨last, hlast, hl⟩ := monthEnd_last
  obtain ⟨first, hfirst, -⟩ :=
    Date.addDays_ok (d := start) (k := (weekday - start.weekday) % 7) (by omega)
  rw [weekdaysOfMonth, hstart, ok_bind, hfirst, ok_bind, hlast, ok_bind,
    first.walk_eq_error hstep hstep' hl]

/-- The search for the last date on a weekday leaves the calendar in its last month. -/
theorem lastWeekdayOfMonth_last :
    lastWeekdayOfMonth 9999 12 weekday = .error .beyondCalendar := by
  rw [lastWeekdayOfMonth, weekdaysOfMonth_last weekday (by decide) (by decide)]
  rfl

/-- The search for a date on a weekday leaves the calendar in its last month. -/
theorem nthWeekdayOfMonth_last (n : Int) :
    nthWeekdayOfMonth 9999 12 weekday n = .error .beyondCalendar := by
  rw [nthWeekdayOfMonth, weekdaysOfMonth_last weekday (by decide) (by decide)]
  rfl

end

/-- A month in which the last date on a weekday is found has one. -/
theorem lastWeekdayOfMonth_ne_none (hy : 1 ≤ year ∧ year ≤ 9999) (hm : 1 ≤ month ∧ month ≤ 12)
    (weekday : Int) : lastWeekdayOfMonth year month weekday ≠ .ok none := by
  intro h
  by_cases hnext : HasNextMonth year month
  · obtain ⟨ds, first, last, hds, hl, -, -, hhigh, hnumbers⟩ :=
      weekdaysOfMonth_walk hy hm hnext weekday 7 (by decide) (by decide)
    have hlength := lengthOfMonth_bounds year month
    have hcount := congrArg List.length hnumbers
    rw [List.length_map, List.length_map, List.length_range] at hcount
    rw [lastWeekdayOfMonth, hds] at h
    have hnil : ds = [] := List.getLast?_eq_none_iff.mp (Except.ok.inj h)
    rw [hnil, List.length_nil] at hcount
    omega
  · rw [HasNextMonth, not_or] at hnext
    obtain rfl : year = 9999 := by omega
    obtain rfl : month = 12 := by omega
    rw [lastWeekdayOfMonth_last] at h
    cases h

end RuleCalendar
