import RuleCalendar.Date.WorkingDay
import RuleCalendar.Proofs.Date.Walk

/-!
# Moving off weekends

The calendar begins on a Monday and ends on a Friday, so that every weekend date has the Friday
before it and the Monday after it. Main statements: each way off a weekend succeeds on every date
and leads to the nearest working day in its direction, at most two days away.
-/

namespace RuleCalendar.Date

/-- A date from Monday to Friday. -/
def IsWorkingDay (d : Date) : Prop := d.weekday < 5

instance (d : Date) : Decidable d.IsWorkingDay := inferInstanceAs (Decidable (d.weekday < 5))

/-- The dates that are in no weekend are the working days. -/
theorem not_isWeekend_iff {d : Date} : (!d.isWeekend) = true ↔ d.IsWorkingDay := by
  simp [isWeekend, IsWorkingDay]

/-- The weekday of a date is the remainder of its number, counted from a Monday on. -/
theorem weekday_eq (d : Date) : d.weekday = (d.number + 6) % 7 := rfl

/-- The calendar does not end on a weekend: a weekend date has a Monday after it. A working day is
itself the first working day not before it. -/
theorem onToMonday_ok (d : Date) : ∃ e, d.onToMonday = .ok e ∧ e.IsWorkingDay ∧
    d.number ≤ e.number ∧ e.number ≤ d.number + 2 ∧
      ∀ e' : Date, d.number ≤ e'.number → e'.IsWorkingDay → e.number ≤ e'.number := by
  have hone := d.one_le
  have hlast := d.le_last
  have hweekday := d.weekday_eq
  simp only [IsWorkingDay, weekday_eq _]
  by_cases hsunday : d.weekday = 6
  · obtain ⟨e, he, hn⟩ := addDays_ok (d := d) (k := 1) (by omega)
    refine ⟨e, ?_, by omega, by omega, by omega, fun e' hle hwork ↦ by omega⟩
    rw [onToMonday, if_pos hsunday, he]
  by_cases hsaturday : d.weekday = 5
  · obtain ⟨e, he, hn⟩ := addDays_ok (d := d) (k := 2) (by omega)
    refine ⟨e, ?_, by omega, by omega, by omega, fun e' hle hwork ↦ by omega⟩
    rw [onToMonday, if_neg hsunday, if_pos hsaturday, he]
  refine ⟨d, ?_, by omega, by omega, by omega, fun e' hle hwork ↦ by omega⟩
  rw [onToMonday, if_neg hsunday, if_neg hsaturday]

/-- The calendar does not begin on a weekend: a weekend date has a Friday before it. A working day
is itself the last working day not after it. -/
theorem backToFriday_ok (d : Date) : ∃ e, d.backToFriday = .ok e ∧ e.IsWorkingDay ∧
    e.number ≤ d.number ∧ d.number ≤ e.number + 2 ∧
      ∀ e' : Date, e'.number ≤ d.number → e'.IsWorkingDay → e'.number ≤ e.number := by
  have hone := d.one_le
  have hlast := d.le_last
  have hweekday := d.weekday_eq
  simp only [IsWorkingDay, weekday_eq _]
  by_cases hsunday : d.weekday = 6
  · obtain ⟨e, he, hn⟩ := addDays_ok (d := d) (k := -2) (by omega)
    refine ⟨e, ?_, by omega, by omega, by omega, fun e' hle hwork ↦ by omega⟩
    rw [backToFriday, if_pos hsunday, he]
  by_cases hsaturday : d.weekday = 5
  · obtain ⟨e, he, hn⟩ := addDays_ok (d := d) (k := -1) (by omega)
    refine ⟨e, ?_, by omega, by omega, by omega, fun e' hle hwork ↦ by omega⟩
    rw [backToFriday, if_neg hsunday, if_pos hsaturday, he]
  refine ⟨d, ?_, by omega, by omega, by omega, fun e' hle hwork ↦ by omega⟩
  rw [backToFriday, if_neg hsunday, if_neg hsaturday]

/-- From a weekend date the first working day after it is the Monday after it. -/
theorem nextWorkingDay_eq {d : Date} (h : ¬d.IsWorkingDay) : d.nextWorkingDay = d.onToMonday := by
  obtain ⟨monday, hmonday, hwork, hle, hle', hmin⟩ := d.onToMonday_ok
  have hafter : d.number < monday.number := by
    by_contra hge
    exact h (ext_number (by omega : monday.number = d.number) ▸ hwork)
  have hlast := monday.le_last
  obtain ⟨next, hnext, hn⟩ := addDays_ok (d := d) (k := 1) (by have := d.one_le; omega)
  obtain ⟨e, he, hework, hge, hge', hemin⟩ := next.onToMonday_ok
  have hsame : e = monday := by
    have hmonday_le := hmin e (by omega) hework
    have he_le := hemin monday (by omega) hwork
    exact ext_number (by omega)
  rw [nextWorkingDay, hnext, ok_bind, he, hmonday, hsame]

/-- No shift moves a working day. -/
theorem shifted_of_isWorkingDay {d : Date} (h : d.IsWorkingDay) (shift : Shift) :
    d.shifted shift = .ok d := by
  unfold shifted
  rw [if_neg]
  rw [← not_isWeekend_iff] at h
  simpa using h

/-- Where no shift is asked for, no date is moved. -/
theorem shifted_none (d : Date) : d.shifted .none = .ok d := by
  simp only [shifted]
  split <;> rfl

/-- A weekend date moves to the Monday after it or to the Friday before it. -/
theorem shifted_of_not_isWorkingDay {d : Date} (h : ¬d.IsWorkingDay) {shift : Shift}
    (hshift : shift ≠ .none) :
    d.shifted shift = if shift = .previousFriday then d.backToFriday else d.onToMonday := by
  have hweekend : d.isWeekend = true := by
    rw [← not_isWeekend_iff] at h
    simpa using h
  unfold shifted
  rw [if_pos hweekend]
  cases shift with
  | none => exact absurd rfl hshift
  | nextMonday => rfl
  | nextWorkingDay => exact nextWorkingDay_eq h
  | previousFriday => rfl

/-- A shift succeeds on every date and leads at most two days away. -/
theorem shifted_ok (d : Date) (shift : Shift) : ∃ e, d.shifted shift = .ok e ∧
    d.number - 2 ≤ e.number ∧ e.number ≤ d.number + 2 := by
  by_cases h : d.IsWorkingDay
  · exact ⟨d, shifted_of_isWorkingDay h shift, by omega, by omega⟩
  · by_cases hnone : shift = .none
    · exact ⟨d, hnone ▸ shifted_none d, by omega, by omega⟩
    · obtain ⟨monday, hmonday, -, hlow, hhigh, -⟩ := d.onToMonday_ok
      obtain ⟨friday, hfriday, -, hlow', hhigh', -⟩ := d.backToFriday_ok
      rw [shifted_of_not_isWorkingDay h hnone]
      split
      · exact ⟨friday, hfriday, by omega, by omega⟩
      · exact ⟨monday, hmonday, by omega, by omega⟩

/-- A shift leads to a working day from every date. -/
theorem isWorkingDay_of_shifted {d e : Date} {shift : Shift} (hshift : shift ≠ .none)
    (h : d.shifted shift = .ok e) : e.IsWorkingDay := by
  by_cases hd : d.IsWorkingDay
  · rw [shifted_of_isWorkingDay hd] at h
    cases h
    exact hd
  · obtain ⟨monday, hmonday, hmondayWork, -⟩ := d.onToMonday_ok
    obtain ⟨friday, hfriday, hfridayWork, -⟩ := d.backToFriday_ok
    rw [shifted_of_not_isWorkingDay hd hshift, hmonday, hfriday] at h
    split at h
    · cases h
      exact hfridayWork
    · cases h
      exact hmondayWork

end RuleCalendar.Date
