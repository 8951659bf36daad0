import RuleCalendar.Proofs.Date.Month
import RuleCalendar.Rule.Dates

/-!
# Dates at an anchor

The anchor of a rule picks dates of a month: one property of dates for each anchor says which. Main
statement: before the last year of the calendar, a rule of an anchored family without a shift has in
a month exactly the dates of the month at its anchor, in order, and none where its months or its
year leave the month out.
-/

namespace RuleCalendar

/-- The families whose rules have their dates at an anchor. -/
def Family.isAnchored : Family → Bool
  | .daily | .weekly | .weekday | .biweekly | .unrecognized => false
  | _ => true

namespace Rule

/-- Whether a date lies where the anchor of a rule says, among the dates of its own month. A missing
anchor stands for a day number, a missing rank for the first, a missing weekday for Monday, and a
weekday beyond Sunday for its remainder modulo 7. -/
def AtAnchor (r : Rule) (d : Date) : Prop :=
  let working (e : Date) : Prop := e.InMonth d.year d.month ∧ e.IsWorkingDay
  let rank := r.ordinal.getD 0
  match r.anchor.getD .day with
  | .everyWorkingDay => d.IsWorkingDay
  | .firstWorkingDay => d.IsWorkingDay ∧ ∀ e, working e → d ≤ e
  | .lastWorkingDay => d.IsWorkingDay ∧ ∀ e, working e → e ≤ d
  | .nthWorkingDay => d.IsWorkingDay ∧ (rankAmong working d : Int) = rank
  | .ordinalWeekday => d.weekday = r.weekday.getD 0 % 7 ∧
      if r.ordinal = some (-1) then lengthOfMonth d.year d.month - 7 < d.day
      else 7 * rank < d.day ∧ d.day ≤ 7 * (rank + 1)
  | .lastDay => ∀ e : Date, e.InMonth d.year d.month → e ≤ d
  | .day => r.day = some d.day

/-- Whether a rule is limited to months or to a year that a month is not among. -/
def LeavesOut (r : Rule) (year month : Int) : Prop :=
  (r.months ≠ [] ∧ month ∉ r.months) ∨ ∃ only, r.year = some only ∧ only ≠ year

/-- A rule covers the months that it does not leave out. -/
theorem coversMonth_iff {r : Rule} {year month : Int} :
    r.coversMonth year month = true ↔ ¬r.LeavesOut year month := by
  simp only [coversMonth, appliesTo, LeavesOut, Bool.and_eq_true, Bool.or_eq_true,
    List.isEmpty_iff, List.contains_iff_mem, Option.all_eq_true, beq_iff_eq, not_or, not_and,
    not_exists, not_not]
  exact and_congr_left' (Decidable.or_iff_not_imp_left)

variable {year month : Int} (hy : 1 ≤ year ∧ year ≤ 9999) (hm : 1 ≤ month ∧ month ≤ 12)
include hy hm

/-- A day of the month has its date, moved by the shift. -/
theorem dayDate?_day {n : Date} (hn : n.InMonth year month) (shift : Shift) :
    ∃ d, n.shifted shift = .ok d ∧ dayDate? year month (some n.day) shift = .ok (some d) := by
  have hday : 1 ≤ n.day ∧ n.day ≤ lengthOfMonth year month := by
    have hbounds := n.day_bounds
    rwa [hn.1, hn.2] at hbounds
  obtain ⟨m, hm', hnumber⟩ := Date.of_eq_ok hy hm hday
  obtain ⟨hyear, hmonth, hmday⟩ := Date.fields_of hm'
  obtain rfl : m = n := Date.InMonth.eq_of_day_eq ⟨hyear, hmonth⟩ hn hmday
  obtain ⟨d, hd, -⟩ := m.shifted_ok shift
  have hfilter : (some m.day).filter (1 ≤ ·) = some m.day := by simp [hday.1]
  refine ⟨d, hd, ?_⟩
  simp only [dayDate?, hfilter, daysInMonth_eq hm, ok_bind, if_pos hday.2, hm', hd]
  rfl

/-- A number that is no day of the month has no date. -/
theorem dayDate?_of_not_day {day : Option Int}
    (h : ∀ n : Date, n.InMonth year month → day ≠ some n.day) (shift : Shift) :
    dayDate? year month day shift = .ok none := by
  cases hday : day.filter (1 ≤ ·) with
  | none =>
    rw [dayDate?, hday]
    rfl
  | some k =>
    obtain ⟨rfl, hk⟩ := Option.filter_eq_some_iff.1 hday
    have hlength : ¬k ≤ lengthOfMonth year month := by
      intro hle
      obtain ⟨n, hn, -⟩ := Date.of_eq_ok hy hm ⟨of_decide_eq_true hk, hle⟩
      obtain ⟨hyear, hmonth, hnday⟩ := Date.fields_of hn
      exact h n ⟨hyear, hmonth⟩ (congrArg some hnday.symm)
    simp only [dayDate?, hday, daysInMonth_eq hm, ok_bind, if_neg hlength]
    rfl

/-- The date of a day number is the month's date with that day, moved by the shift. -/
theorem dayDate?_ok (day : Option Int) (shift : Shift) :
    ∃ o, dayDate? year month day shift = .ok o ∧ ∀ d, o = some d ↔
      ∃ n : Date, n.InMonth year month ∧ day = some n.day ∧ n.shifted shift = .ok d := by
  by_cases h : ∃ n : Date, n.InMonth year month ∧ day = some n.day
  · obtain ⟨n, hn, rfl⟩ := h
    obtain ⟨e, he, hdate⟩ := dayDate?_day hy hm hn shift
    refine ⟨some e, hdate, ?_⟩
    intro d
    constructor
    · rintro h
      cases h
      exact ⟨n, hn, rfl, he⟩
    · rintro ⟨n', hn', hday, hshifted⟩
      obtain rfl : n' = n := hn'.eq_of_day_eq hn (Option.some.inj hday).symm
      rw [he] at hshifted
      cases hshifted
      rfl
  · have hno : ∀ n : Date, n.InMonth year month → day ≠ some n.day := by
      intro n hn hday
      exact h ⟨n, hn, hday⟩
    refine ⟨none, dayDate?_of_not_day hy hm hno shift, ?_⟩
    intro d
    constructor
    · intro hnone
      cases hnone
    · rintro ⟨n, hn, hday, -⟩
      exact absurd hday (hno n hn)

/-- The date at a day number, moved by the shift. -/
theorem anchoredDates_day {r : Rule} (h : r.anchor.getD .day = .day) :
    ∃ o : Option Date, r.anchoredDates year month = .ok o.toList ∧ ∀ d, o = some d ↔
      ∃ n : Date, n.InMonth year month ∧ r.day = some n.day ∧ n.shifted r.shift = .ok d := by
  obtain ⟨o, ho, hiff⟩ := dayDate?_ok hy hm r.day r.shift
  refine ⟨o, ?_, hiff⟩
  simp only [anchoredDates, h, ho]
  rfl

/-- The dates of a month at an anchor, day numbers with a shift apart. Only the search for a weekday
of a given rank looks beyond the month. -/
theorem anchoredDates_ok_of_next {r : Rule}
    (hnext : r.anchor.getD .day = .ordinalWeekday → HasNextMonth year month)
    (h : r.anchor.getD .day = .day → r.shift = .none) :
    ∃ ds, r.anchoredDates year month = .ok ds ∧
      AscendingListOf ds fun d ↦ d.InMonth year month ∧ r.AtAnchor d := by
  cases ha : r.anchor.getD .day with
  | everyWorkingDay =>
    obtain ⟨ds, hds, hasc⟩ := workingDays_ok hy hm
    refine ⟨ds, by simp only [anchoredDates, ha, hds], hasc.congr fun d ↦ ?_⟩
    simp only [AtAnchor, ha]
  | firstWorkingDay =>
    obtain ⟨first, hfirst, hin, hmin⟩ := firstWorkingDay_ok hy hm
    refine ⟨[first], ?_, (AscendingListOf.least hin hmin).congr fun d ↦ ?_⟩
    · simp only [anchoredDates, ha, hfirst]
      rfl
    · rw [and_assoc]
      refine and_congr_right fun hd ↦ ?_
      simp only [AtAnchor, ha, hd.1, hd.2]
  | lastWorkingDay =>
    obtain ⟨last, hlast, hin, hmax⟩ := lastWorkingDay_ok hy hm
    refine ⟨[last], ?_, (AscendingListOf.greatest hin hmax).congr fun d ↦ ?_⟩
    · simp only [anchoredDates, ha, hlast]
      rfl
    · rw [and_assoc]
      refine and_congr_right fun hd ↦ ?_
      simp only [AtAnchor, ha, hd.1, hd.2]
  | nthWorkingDay =>
    obtain ⟨o, ho, hiff⟩ := nthWorkingDay_ok hy hm (r.ordinal.getD 0)
    refine ⟨o.toList, by simp only [anchoredDates, ha, ho]; rfl, .ofOption fun d ↦ ?_⟩
    rw [hiff, and_assoc]
    refine and_congr_right fun hd ↦ ?_
    simp only [AtAnchor, ha, hd.1, hd.2]
  | ordinalWeekday =>
    by_cases hordinal : r.ordinal = some (-1)
    · obtain ⟨o, ho, hiff⟩ := lastWeekdayOfMonth_ok hy hm (hnext ha) (r.weekday.getD 0)
      refine ⟨o.toList, ?_, .ofOption fun d ↦ ?_⟩
      · simp only [anchoredDates, ha, if_pos hordinal, ho]
        rfl
      · rw [hiff]
        refine and_congr_right fun hd ↦ ?_
        simp only [AtAnchor, ha, hd.1, hd.2, if_pos hordinal]
    · obtain ⟨o, ho, hiff⟩ :=
        nthWeekdayOfMonth_ok hy hm (hnext ha) (r.weekday.getD 0) (r.ordinal.getD 0)
      refine ⟨o.toList, ?_, .ofOption fun d ↦ ?_⟩
      · simp only [anchoredDates, ha, if_neg hordinal, ho]
        rfl
      · rw [hiff]
        refine and_congr_right fun hd ↦ ?_
        simp only [AtAnchor, ha, if_neg hordinal]
  | lastDay =>
    obtain ⟨last, hlast, hin, hmax⟩ := monthEnd_greatest hy hm
    refine ⟨[last], ?_, (AscendingListOf.greatest hin hmax).congr fun d ↦ ?_⟩
    · simp only [anchoredDates, ha, hlast]
      rfl
    · refine and_congr_right fun hd ↦ ?_
      simp only [AtAnchor, ha, hd.1, hd.2]
  | day =>
    obtain ⟨o, ho, hiff⟩ := anchoredDates_day hy hm ha
    refine ⟨o.toList, ho, .ofOption fun d ↦ ?_⟩
    rw [hiff]
    simp only [AtAnchor, ha, h ha, Date.shifted_none, Except.ok.injEq]
    constructor
    · rintro ⟨n, hn, hday, rfl⟩
      exact ⟨hn, hday⟩
    · rintro ⟨hd, hday⟩
      exact ⟨d, hd, hday, rfl⟩

/-- Before the last year of the calendar, a month has its dates at every anchor, day numbers with a
shift apart. -/
theorem anchoredDates_ok (hy' : year ≤ 9998) {r : Rule}
    (h : r.anchor.getD .day = .day → r.shift = .none) :
    ∃ ds, r.anchoredDates year month = .ok ds ∧
      AscendingListOf ds fun d ↦ d.InMonth year month ∧ r.AtAnchor d :=
  anchoredDates_ok_of_next hy hm (fun _ ↦ .inl hy') h

omit hy hm in
/-- Rules of an anchored family have the dates at their anchor in the months that they cover. -/
theorem datesIn_of_isAnchored {r : Rule} (h : r.family.isAnchored = true) :
    r.datesIn year month =
      if r.coversMonth year month then r.anchoredDates year month else .ok [] := by
  unfold datesIn
  cases hf : r.family <;> simp [hf, Family.isAnchored] at h ⊢ <;> rfl

omit hy hm in
/-- In the months that a rule of an anchored family is not limited away from, its dates are those of
the month at its anchor. -/
theorem datesIn_eq_dates_at_anchor (r : Rule) (hfamily : r.family.isAnchored = true)
    (hshift : r.shift = .none) (hyear : 1 ≤ year ∧ year ≤ 9998)
    (hmonth : 1 ≤ month ∧ month ≤ 12) :
    (r.LeavesOut year month → r.datesIn year month = .ok []) ∧
      (¬r.LeavesOut year month → ∃ ds, r.datesIn year month = .ok ds ∧
        AscendingListOf ds fun d ↦ d.InMonth year month ∧ r.AtAnchor d) := by
  rw [datesIn_of_isAnchored hfamily, ← coversMonth_iff]
  constructor
  · intro hout
    rw [if_neg fun hcovers ↦ coversMonth_iff.1 hcovers hout]
  · intro hcovers
    rw [if_pos hcovers]
    exact anchoredDates_ok ⟨hyear.1, by omega⟩ hmonth hyear.2 fun _ ↦ hshift

omit hy hm in
/-- A quarterly rule for the fifth Friday of the month, in a month that has one. -/
theorem datesIn_fifth_friday :
    let r : Rule := { family := .quarterly, anchor := some .ordinalWeekday, ordinal := some 4,
                      weekday := some 4, months := [1, 4, 7, 10] }
    (r.family.isAnchored = true ∧ r.shift = .none ∧ ((1 : Int) ≤ 2026 ∧ (2026 : Int) ≤ 9998) ∧
      ((1 : Int) ≤ 7 ∧ (7 : Int) ≤ 12)) ∧ (r.LeavesOut 2026 7 → r.datesIn 2026 7 = .ok []) ∧
        (¬r.LeavesOut 2026 7 → ∃ ds, r.datesIn 2026 7 = .ok ds ∧
          AscendingListOf ds fun d ↦ d.InMonth 2026 7 ∧ r.AtAnchor d) :=
  ⟨by decide, datesIn_eq_dates_at_anchor _ rfl rfl (by decide) (by decide)⟩

end Rule

end RuleCalendar
