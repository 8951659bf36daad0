import Mathlib.Order.Bounds.Defs
import RuleCalendar.Proofs.Date.Shift

/-!
# The nearest working day

A shift back leads to the last working day that does not come after a date, a shift forward to the
first that does not come before it. Main statement: every shift is defined on all dates of the
calendar; it keeps working days, leads from a weekend to the nearest working day on its side, and is
idempotent and monotone. The two shifts forward are one, whether the Monday is counted off or found
by going on a day at a time.
-/

namespace RuleCalendar.Date

/-! ### Going on a day at a time -/

private theorem number_of_addDays {d e : Date} {k : Int} (h : d.addDays k = .ok e) :
    e.number = d.number + k := by
  unfold addDays at h
  split at h
  · cases h
    rfl
  · cases h

/-- The first working day from a date on, looked for a day at a time. -/
def firstWorkingDayFrom (d : Date) : Except CalendarError Date :=
  if d.isWeekend then
    match _h : d.addDays 1 with
    | .ok next => next.firstWorkingDayFrom
    | .error e => .error e
  else .ok d
termination_by (3652059 - d.number).toNat
decreasing_by
  have hn := number_of_addDays _h
  have hlast := next.le_last
  omega

private theorem onToMonday_of_isWorkingDay {d : Date} (h : d.IsWorkingDay) : d.onToMonday = .ok d := by
  unfold IsWorkingDay at h
  rw [onToMonday, if_neg (by omega), if_neg (by omega)]

/-- The search ends on the Monday after a weekend. -/
theorem firstWorkingDayFrom_eq (d : Date) : d.firstWorkingDayFrom = d.onToMonday := by
  fun_induction firstWorkingDayFrom d with
  | case1 d hweekend next hnext ih =>
    have hd : ¬d.IsWorkingDay := by simp [← not_isWeekend_iff, hweekend]
    rw [ih, ← nextWorkingDay_eq hd, nextWorkingDay, hnext, ok_bind]
  | case2 d hweekend e hnext =>
    have hd : ¬d.IsWorkingDay := by simp [← not_isWeekend_iff, hweekend]
    rw [← nextWorkingDay_eq hd, nextWorkingDay, hnext, error_bind]
  | case3 d hweekend =>
    have hd : d.IsWorkingDay := by simpa [← not_isWeekend_iff] using hweekend
    exact (onToMonday_of_isWorkingDay hd).symm

/-! ### The last working day before and the first after -/

/-- A shift back leads to the last working day that does not come after the date. -/
theorem shifted_isGreatest (d : Date) : ∃ e, d.shifted .previousFriday = .ok e ∧
    IsGreatest {e' : Date | e'.IsWorkingDay ∧ e' ≤ d} e := by
  by_cases hd : d.IsWorkingDay
  · refine ⟨d, shifted_of_isWorkingDay hd _, ⟨hd, Int.le_refl _⟩, ?_⟩
    rintro e' ⟨-, hle⟩
    exact hle
  · obtain ⟨friday, hfriday, hwork, hle, -, hmax⟩ := d.backToFriday_ok
    refine ⟨friday, ?_, ⟨hwork, hle⟩, ?_⟩
    · rw [shifted_of_not_isWorkingDay hd (by decide), if_pos rfl, hfriday]
    · rintro e' ⟨hwork', hle'⟩
      exact hmax e' hle' hwork'

/-- A shift forward leads to the first working day that does not come before the date. -/
theorem shifted_isLeast {shift : Shift} (hshift : shift = .nextMonday ∨ shift = .nextWorkingDay)
    (d : Date) : ∃ e, d.shifted shift = .ok e ∧
      IsLeast {e' : Date | e'.IsWorkingDay ∧ d ≤ e'} e := by
  have hnone : shift ≠ .none := by rcases hshift with rfl | rfl <;> decide
  have hback : shift ≠ .previousFriday := by rcases hshift with rfl | rfl <;> decide
  by_cases hd : d.IsWorkingDay
  · refine ⟨d, shifted_of_isWorkingDay hd _, ⟨hd, Int.le_refl _⟩, ?_⟩
    rintro e' ⟨-, hle⟩
    exact hle
  · obtain ⟨monday, hmonday, hwork, hle, -, hmin⟩ := d.onToMonday_ok
    refine ⟨monday, ?_, ⟨hwork, hle⟩, ?_⟩
    · rw [shifted_of_not_isWorkingDay hd hnone, if_neg hback, hmonday]
    · rintro e' ⟨hwork', hle'⟩
      exact hmin e' hle' hwork'

/-! ### Shifts as functions on the calendar -/

/-- What a shift does with the dates of the calendar. -/
structure IsShift (shift : Shift) (move : Date → Date) : Prop where
  keeps : ∀ d, d.IsWorkingDay ∨ shift = .none → move d = d
  isWorkingDay : ∀ d, shift ≠ .none → (move d).IsWorkingDay
  before : shift = .previousFriday → ∀ d, ¬d.IsWorkingDay → move d < d
  after : shift = .nextMonday ∨ shift = .nextWorkingDay → ∀ d, ¬d.IsWorkingDay → d < move d
  nearest : ∀ d e, e.IsWorkingDay → ¬(move d < e ∧ e < d) ∧ ¬(d < e ∧ e < move d)
  idempotent : ∀ d, move (move d) = move d
  monotone : ∀ d e, d ≤ e → move d ≤ move e

private theorem isShift_id : IsShift .none id where
  keeps _ _ := rfl
  isWorkingDay _ h := absurd rfl h
  before h := by cases h
  after h := by rcases h with h | h <;> cases h
  nearest d e _ := ⟨fun h ↦ Int.lt_asymm h.1 h.2, fun h ↦ Int.lt_asymm h.1 h.2⟩
  idempotent _ := rfl
  monotone _ _ h := h

private theorem ne_of_isWorkingDay {d e : Date} (hd : ¬d.IsWorkingDay) (he : e.IsWorkingDay) :
    d.number ≠ e.number := by
  intro h
  rw [ext_number h] at hd
  exact hd he

/-- Leading to the last working day that does not come after a date is what a shift back does. -/
theorem isShift_of_isGreatest {move : Date → Date}
    (h : ∀ d, IsGreatest {e : Date | e.IsWorkingDay ∧ e ≤ d} (move d)) :
    IsShift .previousFriday move := by
  have hwork : ∀ d, (move d).IsWorkingDay := fun d ↦ (h d).1.1
  have hle : ∀ d, move d ≤ d := fun d ↦ (h d).1.2
  have hmax : ∀ d e : Date, e.IsWorkingDay → e ≤ d → e ≤ move d := fun d e he hed ↦
    (h d).2 ⟨he, hed⟩
  have hkeeps : ∀ d : Date, d.IsWorkingDay → move d = d := fun d hd ↦
    ext_number (Int.le_antisymm (hle d) (hmax d d hd (Int.le_refl _)))
  refine ⟨?_, fun d _ ↦ hwork d, ?_, ?_, ?_, ?_, ?_⟩
  · rintro d (hd | hnone)
    · exact hkeeps d hd
    · cases hnone
  · intro _ d hd
    exact Int.lt_iff_le_and_ne.mpr ⟨hle d, (ne_of_isWorkingDay hd (hwork d)).symm⟩
  · rintro (hforward | hforward) <;> cases hforward
  · intro d e he
    constructor
    · rintro ⟨hmove, hed⟩
      exact Int.not_lt.mpr (hmax d e he (Int.le_of_lt hed)) hmove
    · rintro ⟨hde, hmove⟩
      exact Int.lt_irrefl _ (Int.lt_of_lt_of_le (Int.lt_trans hde hmove) (hle d))
  · intro d
    exact hkeeps (move d) (hwork d)
  · intro d e hde
    exact hmax e (move d) (hwork d) (Int.le_trans (hle d) hde)

/-- Leading to the first working day that does not come before a date is what a shift forward
does. -/
theorem isShift_of_isLeast {shift : Shift}
    (hshift : shift = .nextMonday ∨ shift = .nextWorkingDay) {move : Date → Date}
    (h : ∀ d, IsLeast {e : Date | e.IsWorkingDay ∧ d ≤ e} (move d)) : IsShift shift move := by
  have hwork : ∀ d, (move d).IsWorkingDay := fun d ↦ (h d).1.1
  have hle : ∀ d, d ≤ move d := fun d ↦ (h d).1.2
  have hmin : ∀ d e : Date, e.IsWorkingDay → d ≤ e → move d ≤ e := fun d e he hde ↦
    (h d).2 ⟨he, hde⟩
  have hkeeps : ∀ d : Date, d.IsWorkingDay → move d = d := fun d hd ↦
    ext_number (Int.le_antisymm (hmin d d hd (Int.le_refl _)) (hle d))
  refine ⟨?_, fun d _ ↦ hwork d, ?_, ?_, ?_, ?_, ?_⟩
  · rintro d (hd | hnone)
    · exact hkeeps d hd
    · rcases hshift with rfl | rfl <;> cases hnone
  · intro hback
    rcases hshift with rfl | rfl <;> cases hback
  · intro _ d hd
    exact Int.lt_iff_le_and_ne.mpr ⟨hle d, ne_of_isWorkingDay hd (hwork d)⟩
  · intro d e he
    constructor
    · rintro ⟨hmove, hed⟩
      exact Int.lt_irrefl _ (Int.lt_of_le_of_lt (hle d) (Int.lt_trans hmove hed))
    · rintro ⟨hde, hmove⟩
      exact Int.not_lt.mpr (hmin d e he (Int.le_of_lt hde)) hmove
  · intro d
    exact hkeeps (move d) (hwork d)
  · intro d e hde
    exact hmin d (move e) (hwork e) (Int.le_trans hde (hle e))

/-- Every shift is defined on the whole calendar and leads to the nearest working day on its side;
to go to the next Monday and to go on day by day to the next working day come to the same. -/
theorem shifted_nearest :
    (∀ shift, ∃ move : Date → Date,
        (∀ d : Date, d.shifted shift = .ok (move d)) ∧ IsShift shift move) ∧
      (∀ d : Date, d.shifted .nextMonday = d.shifted .nextWorkingDay) ∧
      ∀ d : Date, d.nextWorkingDay = d.addDays 1 >>= firstWorkingDayFrom := by
  refine ⟨fun shift ↦ ?_, fun d ↦ ?_, fun d ↦ ?_⟩
  · have hforward : ∀ shift : Shift, shift = .nextMonday ∨ shift = .nextWorkingDay →
        ∃ move : Date → Date,
          (∀ d : Date, d.shifted shift = .ok (move d)) ∧ IsShift shift move := by
      intro shift hshift
      choose move hmove hleast using shifted_isLeast hshift
      exact ⟨move, hmove, isShift_of_isLeast hshift hleast⟩
    cases shift with
    | none => exact ⟨id, shifted_none, isShift_id⟩
    | nextMonday => exact hforward _ (.inl rfl)
    | nextWorkingDay => exact hforward _ (.inr rfl)
    | previousFriday =>
      choose move hmove hgreatest using shifted_isGreatest
      exact ⟨move, hmove, isShift_of_isGreatest hgreatest⟩
  · by_cases hd : d.IsWorkingDay
    · rw [shifted_of_isWorkingDay hd, shifted_of_isWorkingDay hd]
    · rw [shifted_of_not_isWorkingDay hd (by decide), shifted_of_not_isWorkingDay hd (by decide)]
      rfl
  · have hsearch : firstWorkingDayFrom = onToMonday := funext firstWorkingDayFrom_eq
    rw [hsearch, nextWorkingDay]

end RuleCalendar.Date
