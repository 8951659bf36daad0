import RuleCalendar.Date.Lemmas

/-!
# Months as runs of day numbers

Every date has a year from 1 to 9999, a month from 1 to 12 and a day that its month has. Main
statement: the dates of a month are those whose numbers come after the days before the month, as
many as the month is long.
-/

namespace RuleCalendar

/-- The days of the calendar before a month of a year. -/
def daysBefore (year month : Int) : Int :=
  daysBeforeYear year + daysBeforeMonth (isLeap year) month

/-- The number of days of a month of a year. -/
def lengthOfMonth (year month : Int) : Int := monthLength (isLeap year) month

/-- A month has 28 to 31 days. -/
theorem lengthOfMonth_bounds (year month : Int) :
    28 ≤ lengthOfMonth year month ∧ lengthOfMonth year month ≤ 31 := by
  unfold lengthOfMonth monthLength
  split
  · split <;> omega
  · split <;> omega

/-- Whether the calendar goes on after a month of one of its years. -/
def HasNextMonth (year month : Int) : Prop := year ≤ 9998 ∨ month ≤ 11

/-- A year begins with its January. -/
theorem daysBefore_january (year : Int) : daysBefore year 1 = daysBeforeYear year := by
  simp [daysBefore, daysBeforeMonth]

/-- A year ends with its December. -/
theorem daysBefore_december (year : Int) :
    daysBefore year 12 + 31 = daysBeforeYear (year + 1) := by
  rw [daysBefore, daysBeforeMonth, Date.daysBeforeYear_succ]
  cases isLeap year <;> simp <;> omega

/-- Each of the twelve months has its length in days. -/
theorem daysInMonth_eq {year month : Int} (hm : 1 ≤ month ∧ month ≤ 12) :
    daysInMonth year month = .ok (lengthOfMonth year month) := by
  rw [daysInMonth, if_pos hm, lengthOfMonth]

namespace Date

/-- Dates with the same number are the same. -/
theorem ext_number {d e : Date} (h : d.number = e.number) : d = e := by
  cases d
  cases e
  cases h
  rfl

/-- The dates are in the order of their numbers. -/
theorem le_iff {d e : Date} : d ≤ e ↔ d.number ≤ e.number := Iff.rfl

/-- The number of a date comes after the days before its year and not after the year. -/
theorem number_in_year (d : Date) :
    daysBeforeYear d.year < d.number ∧ d.number ≤ daysBeforeYear (d.year + 1) := by
  have hg := guess_bounds d.number
  simp only [year]
  generalize 400 * (d.number + 1) / 146097 = guess at hg ⊢
  obtain ⟨hlow, hhigh⟩ := hg
  have hstep : guess + 2 = guess + 1 + 1 := by omega
  split
  · next h => exact ⟨h, hstep ▸ hhigh⟩
  · next h => exact ⟨hlow, by omega⟩

/-- The years of the calendar. -/
theorem year_bounds (d : Date) : 1 ≤ d.year ∧ d.year ≤ 9999 := by
  obtain ⟨hlow, hhigh⟩ := d.number_in_year
  have hone := d.one_le
  have hlast := d.le_last
  have hstart : daysBeforeYear 1 = 0 := by decide
  have hend : daysBeforeYear 10000 = 3652059 := by decide
  constructor
  · refine Int.not_lt.1 fun hbefore ↦ ?_
    have hmono := daysBeforeYear_le (show d.year + 1 ≤ 1 by omega)
    omega
  · refine Int.not_lt.1 fun hafter ↦ ?_
    have hmono := daysBeforeYear_le (show 10000 ≤ d.year by omega)
    omega

private theorem dayOfYear_bounds (d : Date) :
    0 ≤ d.dayOfYear ∧ d.dayOfYear < if isLeap d.year then 366 else 365 := by
  obtain ⟨hlow, hhigh⟩ := d.number_in_year
  rw [daysBeforeYear_succ] at hhigh
  simp only [dayOfYear]
  constructor <;> omega

/-- The month of a date is one of twelve. -/
theorem month_bounds (d : Date) : 1 ≤ d.month ∧ d.month ≤ 12 := by
  obtain ⟨hlow, hhigh⟩ := d.dayOfYear_bounds
  simp only [month]
  split at hhigh <;> simp_all <;> split <;> omega

private theorem month_eq (d : Date) :
    d.month = (12 * (d.dayOfYear + (if d.dayOfYear < (if isLeap d.year then 60 else 59) then 0
      else if isLeap d.year then 1 else 2)) + 373) / 367 := rfl

/-- The day of a date is one that its month has. -/
theorem day_bounds (d : Date) : 1 ≤ d.day ∧ d.day ≤ lengthOfMonth d.year d.month := by
  obtain ⟨hlow, hhigh⟩ := d.dayOfYear_bounds
  have hcases := month_cases d.month_bounds
  have hmonth := d.month_eq
  simp only [day, lengthOfMonth]
  generalize d.month = m at *
  cases hl : isLeap d.year <;> simp only [hl] at hhigh hmonth ⊢ <;>
    rcases hcases with rfl | rfl | rfl | rfl | rfl | rfl | rfl | rfl | rfl | rfl | rfl | rfl <;>
    simp [monthLength, daysBeforeMonth] at hhigh hmonth ⊢ <;> split at hmonth <;> omega

/-- A date is as many days after the days before its month as its day says. -/
theorem number_eq (d : Date) : d.number = daysBefore d.year d.month + d.day := by
  simp only [daysBefore, day, dayOfYear]
  omega

private theorem wordError?_eq_none {n : Int} (h : 1 ≤ n) (h' : n ≤ 9999) :
    wordError? n = none := by
  have hlong : fitsLong n = true := by simp [fitsLong]; omega
  have hword : fitsWord n = true := by simp [fitsWord]; omega
  simp [wordError?, hlong, hword]

/-- A year, a month and a day that exist have a date. -/
theorem of_eq_ok {year month day : Int} (hy : 1 ≤ year ∧ year ≤ 9999)
    (hm : 1 ≤ month ∧ month ≤ 12) (hd : 1 ≤ day ∧ day ≤ lengthOfMonth year month) :
    ∃ d, of year month day = .ok d ∧ d.number = daysBefore year month + day := by
  have hfits : [year, month, day].findSome? wordError? = none := by
    have hlength := lengthOfMonth_bounds year month
    simp [wordError?_eq_none hy.1 hy.2, wordError?_eq_none hm.1 (by omega),
      wordError?_eq_none hd.1 (by omega)]
  have hb := number_bounds hy.1 hy.2 hm.1 hm.2 hd.1 hd.2
  have hof : of year month day = .ok ⟨daysBefore year month + day, hb.1, hb.2⟩ := by
    unfold of
    rw [hfits]
    exact (dif_pos hy).trans ((dif_pos hm).trans (dif_pos hd))
  exact ⟨_, hof, rfl⟩

/-- Whether a date lies in a month of a year. -/
def InMonth (d : Date) (year month : Int) : Prop := d.year = year ∧ d.month = month

instance (d : Date) (year month : Int) : Decidable (d.InMonth year month) :=
  inferInstanceAs (Decidable (d.year = year ∧ d.month = month))

/-- The days of a month are days of its year. -/
theorem daysBefore_in_year (year : Int) {month : Int} (hm : 1 ≤ month ∧ month ≤ 12) :
    daysBeforeYear year ≤ daysBefore year month ∧
      daysBefore year month + lengthOfMonth year month ≤ daysBeforeYear (year + 1) := by
  have hmonth : 0 ≤ daysBeforeMonth (isLeap year) month ∧
      daysBeforeMonth (isLeap year) month + monthLength (isLeap year) month ≤
        if isLeap year then 366 else 365 := by
    cases isLeap year <;>
      rcases month_cases hm with rfl | rfl | rfl | rfl | rfl | rfl | rfl | rfl | rfl | rfl | rfl | rfl <;>
      simp [monthLength, daysBeforeMonth]
  have hyear := daysBeforeYear_succ year
  simp only [daysBefore, lengthOfMonth]
  omega

section

variable {year month : Int} (hy : 1 ≤ year ∧ year ≤ 9999) (hm : 1 ≤ month ∧ month ≤ 12)
include hy hm

/-- The dates of a month have the numbers from the days before it to those and its length. -/
theorem inMonth_iff {d : Date} :
    d.InMonth year month ↔ daysBefore year month < d.number ∧
      d.number ≤ daysBefore year month + lengthOfMonth year month := by
  constructor
  · rintro ⟨rfl, rfl⟩
    have hd := d.day_bounds
    have hn := d.number_eq
    omega
  · intro h
    have hday : 1 ≤ d.number - daysBefore year month ∧
        d.number - daysBefore year month ≤ lengthOfMonth year month := by omega
    obtain ⟨e, he, hn⟩ := of_eq_ok hy hm hday
    have hde : e = d := ext_number (by omega)
    obtain ⟨hyear, hmonth, -⟩ := fields_of he
    rw [← hde]
    exact ⟨hyear, hmonth⟩

/-- The days of a month in the calendar are days of the calendar. -/
theorem daysBefore_bounds :
    0 ≤ daysBefore year month ∧ daysBefore year month + lengthOfMonth year month ≤ 3652059 := by
  have hl := lengthOfMonth_bounds year month
  have hone : 1 ≤ monthLength (isLeap year) month := by
    rw [lengthOfMonth] at hl
    omega
  have hfirst := number_bounds hy.1 hy.2 hm.1 hm.2 (Int.le_refl 1) hone
  have hlast := number_bounds hy.1 hy.2 hm.1 hm.2 hone (Int.le_refl _)
  simp only [daysBefore, lengthOfMonth] at *
  omega

/-- Before the last year, months leave room for the days of a whole year after them. -/
theorem daysBefore_le (hy' : year ≤ 9998) :
    daysBefore year month + lengthOfMonth year month ≤ 3651694 := by
  have hmonth := (daysBefore_in_year year hm).2
  have hmono : daysBeforeYear (year + 1) ≤ daysBeforeYear 9999 := daysBeforeYear_le (by omega)
  have hlast : daysBeforeYear 9999 = 3651694 := by decide
  omega

/-- After a month that is not the last, the calendar goes on for 31 days at least. -/
theorem daysBefore_le_of_next (hnext : HasNextMonth year month) :
    daysBefore year month + lengthOfMonth year month + 31 ≤ 3652059 := by
  by_cases hy' : year ≤ 9998
  · have hle := daysBefore_le hy hm hy'
    omega
  · obtain rfl : year = 9999 := by omega
    have hmonth : month ≤ 11 := hnext.resolve_left (by omega)
    have hcases : month = 1 ∨ month = 2 ∨ month = 3 ∨ month = 4 ∨ month = 5 ∨ month = 6 ∨
        month = 7 ∨ month = 8 ∨ month = 9 ∨ month = 10 ∨ month = 11 := by omega
    rcases hcases with rfl | rfl | rfl | rfl | rfl | rfl | rfl | rfl | rfl | rfl | rfl <;> decide

end

/-- A date in a month has the day that its number is after the days before the month. -/
theorem InMonth.day_eq {d : Date} {year month : Int} (h : d.InMonth year month) :
    d.day = d.number - daysBefore year month := by
  obtain ⟨rfl, rfl⟩ := h
  have hn := d.number_eq
  omega

/-- Dates of one month with the same day are the same. -/
theorem InMonth.eq_of_day_eq {d e : Date} {year month : Int} (hd : d.InMonth year month)
    (he : e.InMonth year month) (h : d.day = e.day) : d = e := by
  apply ext_number
  rw [hd.day_eq, he.day_eq] at h
  omega

end Date

end RuleCalendar
