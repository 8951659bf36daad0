import RuleCalendar.Date.Basic

/-!
# Reading a date back

The year, month and day that are read off a date's number are those that the date was made of.
-/

namespace RuleCalendar.Date

/-- No fewer days stand before a later year. -/
theorem daysBeforeYear_le {a b : Int} (h : a ≤ b) :
    daysBeforeYear a ≤ daysBeforeYear b := by
  simp only [daysBeforeYear]; omega

/-- The year that is guessed from a number is at most one too small. -/
theorem guess_bounds (n : Int) :
    let guess := 400 * (n + 1) / 146097
    daysBeforeYear guess < n ∧ n ≤ daysBeforeYear (guess + 2) := by
  simp only [daysBeforeYear]; omega

/-- A year has 365 days, or 366 in a leap year. -/
theorem daysBeforeYear_succ (y : Int) :
    daysBeforeYear (y + 1) = daysBeforeYear y + if isLeap y then 366 else 365 := by
  have hleap : isLeap y = true ↔ y % 4 = 0 ∧ (y % 100 ≠ 0 ∨ y % 400 = 0) := by simp [isLeap]
  simp only [daysBeforeYear]
  split <;> simp_all <;> omega

/-- The year of a date is the one whose days its number falls among. -/
theorem year_eq {d : Date} {y : Int} (h : daysBeforeYear y < d.number)
    (h' : d.number ≤ daysBeforeYear (y + 1)) : d.year = y := by
  have hg := guess_bounds d.number
  simp only [year]
  generalize 400 * (d.number + 1) / 146097 = guess at hg ⊢
  obtain ⟨hg, hg'⟩ := hg
  have h₁ : y < guess + 2 := by
    refine Int.not_le.1 fun hle ↦ ?_
    have := daysBeforeYear_le hle
    omega
  have h₂ : guess < y + 1 := by
    refine Int.not_le.1 fun hle ↦ ?_
    have := daysBeforeYear_le hle
    omega
  obtain rfl | rfl : y = guess ∨ y = guess + 1 := by omega
  · rw [if_neg (by omega)]
  · rw [if_pos h]

/-- A date reads back the year, the month and the day that it was made of. -/
theorem fields_of {y m k : Int} {d : Date} (h : of y m k = .ok d) :
    d.year = y ∧ d.month = m ∧ d.day = k := by
  unfold of at h
  split at h
  · cases h
  unfold ofWords at h
  by_cases hy : 1 ≤ y ∧ y ≤ 9999
  case neg => simp [hy] at h
  by_cases hm : 1 ≤ m ∧ m ≤ 12
  case neg => simp [hy, hm] at h
  by_cases hk : 1 ≤ k ∧ k ≤ monthLength (isLeap y) m
  case neg => simp [hy, hm, hk] at h
  rw [dif_pos hy, dif_pos hm, dif_pos hk] at h
  injection h with h
  have hn : d.number = daysBeforeYear y + daysBeforeMonth (isLeap y) m + k := by rw [← h]
  clear h
  have hcases := month_cases hm
  have hin : 1 ≤ daysBeforeMonth (isLeap y) m + k ∧
      daysBeforeMonth (isLeap y) m + k ≤ if isLeap y then 366 else 365 := by
    cases hl : isLeap y <;> simp only [hl] at hk ⊢ <;>
      rcases hcases with rfl | rfl | rfl | rfl | rfl | rfl | rfl | rfl | rfl | rfl | rfl | rfl <;>
      simp [monthLength, daysBeforeMonth] at hk ⊢ <;> omega
  have hyear : d.year = y := year_eq (by omega) (by rw [daysBeforeYear_succ]; omega)
  have hday : d.dayOfYear = daysBeforeMonth (isLeap y) m + k - 1 := by
    rw [dayOfYear, hyear, hn]; omega
  have hmonth : d.month = m := by
    simp only [month, hyear, hday]
    cases hl : isLeap y <;> simp only [hl] at hk ⊢ <;>
      rcases hcases with rfl | rfl | rfl | rfl | rfl | rfl | rfl | rfl | rfl | rfl | rfl | rfl <;>
      simp [monthLength, daysBeforeMonth] at hk ⊢ <;> (try split) <;> omega
  exact ⟨hyear, hmonth, by rw [day, hyear, hmonth, hday]; omega⟩

end RuleCalendar.Date
