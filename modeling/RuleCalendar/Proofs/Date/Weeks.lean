import Mathlib.Data.List.SplitBy
import RuleCalendar.Export.Grid
import RuleCalendar.Proofs.Date.Year

/-!
# The weeks of a month

The grid of a month is made of whole weeks. Day numbers that 7 divides are Sundays, so that a date's
column is the remainder of its number. Main statements: away from the ends of the calendar, the weeks
of a month are runs of seven dates in a row from a Sunday on, from the week of the first of the month
to the week of its last; of the dates of the month, they hold the runs between one Sunday and the
next.
-/

namespace RuleCalendar

/-! ### Neighbouring months -/

private theorem monthBefore_bounds {year month : Int} (hy : 2 ≤ year ∧ year ≤ 9998)
    (hm : 1 ≤ month ∧ month ≤ 12) :
    (1 ≤ (Grid.monthBefore year month).1 ∧ (Grid.monthBefore year month).1 ≤ 9999) ∧
      1 ≤ (Grid.monthBefore year month).2 ∧ (Grid.monthBefore year month).2 ≤ 12 := by
  unfold Grid.monthBefore
  split
  · simp only
    omega
  · simp only
    omega

private theorem monthAfter_bounds {year month : Int} (hy : 2 ≤ year ∧ year ≤ 9998)
    (hm : 1 ≤ month ∧ month ≤ 12) :
    (1 ≤ (Grid.monthAfter year month).1 ∧ (Grid.monthAfter year month).1 ≤ 9999) ∧
      1 ≤ (Grid.monthAfter year month).2 ∧ (Grid.monthAfter year month).2 ≤ 12 := by
  unfold Grid.monthAfter
  split
  · simp only
    omega
  · simp only
    omega

private theorem monthBefore_ne (year month : Int) : (Grid.monthBefore year month).2 ≠ month := by
  unfold Grid.monthBefore
  split
  · simp only
    omega
  · simp only
    omega

private theorem monthAfter_ne (year month : Int) : (Grid.monthAfter year month).2 ≠ month := by
  unfold Grid.monthAfter
  split
  · simp only
    omega
  · simp only
    omega

/-- The month before a month ends where the month begins. -/
theorem daysBefore_monthBefore (year : Int) {month : Int} (hm : 1 ≤ month ∧ month ≤ 12) :
    daysBefore (Grid.monthBefore year month).1 (Grid.monthBefore year month).2 +
      lengthOfMonth (Grid.monthBefore year month).1 (Grid.monthBefore year month).2 =
        daysBefore year month := by
  unfold Grid.monthBefore
  split
  · next hjanuary =>
    have hdecember := daysBefore_december (year - 1)
    have hlength : lengthOfMonth (year - 1) 12 = 31 := rfl
    rw [Int.sub_add_cancel] at hdecember
    rw [hlength, hdecember, hjanuary, daysBefore_january]
  · next hlater =>
    have hbefore : 1 ≤ month - 1 ∧ month - 1 ≤ 11 := by omega
    have hseam := daysBefore_succ year hbefore
    rw [Int.sub_add_cancel] at hseam
    exact hseam.symm

/-- The month after a month begins where the month ends. -/
theorem daysBefore_monthAfter (year : Int) {month : Int} (hm : 1 ≤ month ∧ month ≤ 12) :
    daysBefore (Grid.monthAfter year month).1 (Grid.monthAfter year month).2 =
      daysBefore year month + lengthOfMonth year month := by
  unfold Grid.monthAfter
  split
  · next hdecember =>
    subst hdecember
    have hlength : lengthOfMonth year 12 = 31 := rfl
    rw [daysBefore_january, hlength, daysBefore_december]
  · exact daysBefore_succ year (by omega)

namespace Grid

/-! ### The dates of a grid -/

/-- Numbers in a row. -/
def numbersFrom (first : Int) (count : Nat) : List Int :=
  (List.range count).map fun (i : Nat) ↦ first + i

/-- There are as many numbers in a row as are asked for. -/
theorem length_numbersFrom (first : Int) (count : Nat) : (numbersFrom first count).length = count := by
  rw [numbersFrom, List.length_map, List.length_range]

private theorem numbersFrom_append {first next : Int} {count : Nat} (h : next = first + count)
    (count' : Nat) :
    numbersFrom first count ++ numbersFrom next count' = numbersFrom first (count + count') := by
  simp only [numbersFrom, List.range_add, List.map_append, List.map_map, h]
  congr 1
  apply List.map_congr_left
  intro i _
  simp only [Function.comp_apply]
  omega

private theorem numbersFrom_succ (first : Int) (count : Nat) :
    numbersFrom first (count + 1) = first :: numbersFrom (first + 1) count := by
  have hsplit : numbersFrom first 1 ++ numbersFrom (first + 1) count =
      numbersFrom first (1 + count) := numbersFrom_append rfl count
  rw [Nat.add_comm, ← hsplit]
  simp [numbersFrom]

/-- The numbers in a row are those from the first on and below the end. -/
theorem mem_numbersFrom {first n : Int} {count : Nat} :
    n ∈ numbersFrom first count ↔ first ≤ n ∧ n < first + count := by
  rw [numbersFrom, List.mem_map]
  constructor
  · rintro ⟨i, hi, rfl⟩
    rw [List.mem_range] at hi
    omega
  · intro h
    exact ⟨(n - first).toNat, by rw [List.mem_range]; omega, by omega⟩

private theorem firstColumn_eq (year month : Int) :
    firstColumn year month = (daysBefore year month + 1) % 7 := rfl

/-- The days of a run of days of a month. -/
def daysFrom (first count : Int) (m : Int × Int) : List (Int × Int × Int) :=
  (List.range count.toNat).map fun (i : Nat) ↦ (m.1, m.2, first + i)

/-- The number of a day that is given as year, month and day. -/
def dayNumber (d : Int × Int × Int) : Int := daysBefore d.1 d.2.1 + d.2.2

private theorem map_dayNumber_daysFrom (first count : Int) (m : Int × Int) :
    (daysFrom first count m).map dayNumber =
      numbersFrom (daysBefore m.1 m.2 + first) count.toNat := by
  rw [daysFrom, numbersFrom, List.map_map]
  apply List.map_congr_left
  intro i _
  simp only [Function.comp_apply, dayNumber]
  omega

/-- A day that is given as year, month and day has a date. -/
def IsDay (d : Int × Int × Int) : Prop :=
  ∃ e, Date.of d.1 d.2.1 d.2.2 = .ok e ∧ e.number = dayNumber d

/-- The days of a run of days that its month has are dates. -/
theorem isDay_of_mem_daysFrom {first count : Int} {m : Int × Int} (hy : 1 ≤ m.1 ∧ m.1 ≤ 9999)
    (hm : 1 ≤ m.2 ∧ m.2 ≤ 12) (hfirst : 1 ≤ first)
    (hlast : first + count ≤ lengthOfMonth m.1 m.2 + 1) : ∀ d ∈ daysFrom first count m, IsDay d := by
  intro d hd
  obtain ⟨i, hi, rfl⟩ := List.mem_map.mp hd
  rw [List.mem_range] at hi
  have hday : 1 ≤ first + (i : Int) ∧ first + (i : Int) ≤ lengthOfMonth m.1 m.2 := by omega
  exact Date.of_eq_ok hy hm hday

/-- The number of the Sunday that the grid of a month begins with. -/
def firstSunday (year month : Int) : Int := daysBefore year month + 1 - firstColumn year month

/-- The number of weeks of the grid of a month. -/
def weekCount (year month : Int) : Nat :=
  ((firstColumn year month + lengthOfMonth year month + 6) / 7).toNat

section

variable {year month : Int} (hy : 2 ≤ year ∧ year ≤ 9998) (hm : 1 ≤ month ∧ month ≤ 12)
include hy hm

/-- Away from the ends of the calendar, the days of a grid are dates in a row, from a Sunday on, as
many weeks as the month reaches into. -/
theorem coveringDays_ok : ∃ days, coveringDays year month = .ok days ∧ (∀ d ∈ days, IsDay d) ∧
    days.map dayNumber = numbersFrom (firstSunday year month) (7 * weekCount year month) := by
  have hprevious := monthBefore_bounds hy hm
  have hnext := monthAfter_bounds hy hm
  have hbefore := daysBefore_monthBefore year hm
  have hafter := daysBefore_monthAfter year hm
  have hlengthBefore := lengthOfMonth_bounds (monthBefore year month).1 (monthBefore year month).2
  have hlengthAfter := lengthOfMonth_bounds (monthAfter year month).1 (monthAfter year month).2
  have hlength := lengthOfMonth_bounds year month
  have hcolumn := firstColumn_eq year month
  simp only [coveringDays, daysInMonth_eq hm]
  refine ⟨daysFrom _ _ (monthBefore year month) ++ daysFrom _ _ (year, month) ++
    daysFrom _ _ (monthAfter year month), rfl, ?_, ?_⟩
  · simp only [List.forall_mem_append]
    refine ⟨⟨?_, ?_⟩, ?_⟩
    · apply isDay_of_mem_daysFrom hprevious.1 hprevious.2
      · rw [lengthOfMonth] at hlengthBefore
        omega
      · rw [lengthOfMonth]
        omega
    · have hlast : 1 + lengthOfMonth year month ≤ lengthOfMonth year month + 1 := by omega
      exact isDay_of_mem_daysFrom (m := (year, month)) ⟨by omega, by omega⟩ hm (by omega) hlast
    · exact isDay_of_mem_daysFrom hnext.1 hnext.2 (by omega) (by omega)
  · have hend : monthLength (isLeap (monthBefore year month).1) (monthBefore year month).2 =
        lengthOfMonth (monthBefore year month).1 (monthBefore year month).2 := rfl
    simp only [List.map_append, map_dayNumber_daysFrom, hend]
    rw [numbersFrom_append (by omega), numbersFrom_append (by omega)]
    congr 1
    · rw [firstSunday]
      omega
    · rw [weekCount]
      omega

/-- The dates of a grid. -/
theorem coveringDates_ok : ∃ ds, coveringDates year month = .ok ds ∧
    ds.map Date.number = numbersFrom (firstSunday year month) (7 * weekCount year month) := by
  obtain ⟨days, hdays, hall, hnumbers⟩ := coveringDays_ok hy hm
  obtain ⟨ds, hds, hviews⟩ := exists_mapM_eq_ok hall
  refine ⟨ds, ?_, hviews.trans hnumbers⟩
  rw [coveringDates, hdays, ok_bind]
  exact hds

end

/-! ### Weeks -/

private theorem weeks_append {week : List Date} (h : week.length = 7) (rest : List Date) :
    weeks (week ++ rest) = week :: weeks rest := by
  match week, h with
  | [a, b, c, d, e, f, g], _ => rfl

/-- The weeks hold the dates they are made of, in order. -/
theorem flatten_weeks (ds : List Date) : (weeks ds).flatten = ds := by
  induction ds using weeks.induct with
  | case1 a b c d e f g rest ih =>
    rw [weeks, List.flatten_cons, ih]
    rfl
  | case2 => rfl
  | case3 rest hshort hne => rw [weeks.eq_3 rest hshort hne, List.flatten_singleton]

/-- Dates in a row make up weeks of dates in a row. -/
theorem map_number_weeks {first : Int} {count : Nat} {ds : List Date}
    (h : ds.map Date.number = numbersFrom first (7 * count)) :
    (weeks ds).map (·.map Date.number) =
      (List.range count).map fun (i : Nat) ↦ numbersFrom (first + 7 * i) 7 := by
  induction count generalizing first ds with
  | zero =>
    have hds : ds = [] := List.map_eq_nil_iff.mp h
    rw [hds]
    rfl
  | succ count ih =>
    have hcount : 7 * (count + 1) = 7 + 7 * count := by omega
    have hcount' : first + 7 = first + (7 : Nat) := rfl
    rw [hcount, ← numbersFrom_append hcount'] at h
    obtain ⟨week, rest, rfl, hweek, hrest⟩ := List.map_eq_append_iff.mp h
    have hseven : week.length = 7 := by
      rw [← List.length_map (f := Date.number), hweek, length_numbersFrom]
    rw [weeks_append hseven, List.map_cons, hweek, ih hrest, List.range_succ_eq_map, List.map_cons,
      List.map_map]
    congr 1
    · simp
    · apply List.map_congr_left
      intro i _
      simp only [Function.comp_apply]
      congr 1
      omega

section

variable {first : Int} {count : Nat} {ds : List Date}
  (h : ds.map Date.number = numbersFrom first (7 * count))
include h

private theorem length_weeks : (weeks ds).length = count := by
  have hcount := congrArg List.length (map_number_weeks h)
  rwa [List.length_map, List.length_map, List.length_range] at hcount

private theorem map_number_getElem_weeks {i : Nat} (hi : i < (weeks ds).length) :
    (weeks ds)[i].map Date.number = numbersFrom (first + 7 * i) 7 := by
  have hweek := List.getElem_of_eq (map_number_weeks h) (by rwa [List.length_map])
  rwa [List.getElem_map, List.getElem_map, List.getElem_range] at hweek

end

/-- In a week only the first date is a Sunday. -/
theorem pairwise_week {sunday : Int} (hsunday : sunday % 7 = 0) {week : List Date}
    (h : week.map Date.number = numbersFrom sunday 7) :
    week.Pairwise fun _ d ↦ d.weekday ≠ 6 := by
  have hnumbers : (week.map Date.number).Pairwise fun _ n ↦ n % 7 ≠ 0 := by
    rw [h, numbersFrom, List.pairwise_map]
    refine List.pairwise_lt_range.imp_of_mem fun _ hj hij ↦ ?_
    rw [List.mem_range] at hj
    omega
  rw [List.pairwise_map] at hnumbers
  refine hnumbers.imp fun hne hweekday ↦ hne ?_
  rw [Date.weekday_eq] at hweekday
  omega

/-- The column of a date in its week, 0 for Sunday. -/
def column (d : Date) : Nat := ((d.weekday + 1) % 7).toNat

/-- The weeks of its month before the week of a date. -/
def weekOfMonth (d : Date) : Nat := (d.number / 7 - (d.number - d.day + 1) / 7).toNat

/-- A date's column is the remainder of its number by seven. -/
theorem column_eq (d : Date) : (column d : Int) = d.number % 7 := by
  have hweekday := d.weekday_eq
  rw [column]
  omega

/-- A date of a month stands in its week at its column, after the dates of the week before it. -/
theorem exists_week {year month : Int} (hy : 1 ≤ year ∧ year ≤ 9999) (hm : 1 ≤ month ∧ month ≤ 12)
    {ds : List Date}
    (h : ds.map Date.number = numbersFrom (firstSunday year month) (7 * weekCount year month))
    {d : Date} (hd : d.InMonth year month) :
    ∃ before after, (weeks ds)[weekOfMonth d]? = some (before ++ d :: after) ∧
      before.map Date.number = numbersFrom (d.number - column d) (column d) := by
  have hbounds := (Date.inMonth_iff hy hm).mp hd
  have hday := hd.day_eq
  have hcolumn := column_eq d
  have hfirst := firstColumn_eq year month
  have hrow : weekOfMonth d < (weeks ds).length := by
    rw [length_weeks h, weekOfMonth, weekCount]
    omega
  have hstart : firstSunday year month + 7 * (weekOfMonth d : Int) = d.number - column d := by
    rw [firstSunday, weekOfMonth]
    omega
  have hnumbers := map_number_getElem_weeks h hrow
  have hsplit : numbersFrom (d.number - column d) 7 = numbersFrom (d.number - column d) (column d) ++
      numbersFrom d.number (6 - column d + 1) := by
    rw [numbersFrom_append (by omega)]
    congr 1
    omega
  rw [hstart, hsplit] at hnumbers
  obtain ⟨before, rest, hweek, hbefore, hrest⟩ := List.map_eq_append_iff.mp hnumbers
  rw [numbersFrom_succ] at hrest
  obtain ⟨e, after, rfl, he, -⟩ := List.map_eq_cons_iff.mp hrest
  rw [Date.ext_number he] at hweek
  exact ⟨before, after, List.getElem?_eq_some_iff.mpr ⟨hrow, hweek⟩, hbefore⟩

/-! ### The dates of the month -/

/-- The dates of a month have the days from 1 to its length. -/
theorem map_day_eq {year month : Int} (hy : 1 ≤ year ∧ year ≤ 9999) (hm : 1 ≤ month ∧ month ≤ 12)
    {ds : List Date} (h : AscendingListOf ds (·.InMonth year month)) :
    ds.map Date.day = numbersFrom 1 (lengthOfMonth year month).toNat := by
  have hlength := lengthOfMonth_bounds year month
  have hday : ∀ d ∈ ds, d.day = d.number - daysBefore year month :=
    fun d hd ↦ ((h.mem_iff d).mp hd).day_eq
  have hdays : (ds.map Date.day).Pairwise (· < ·) := by
    rw [List.pairwise_map]
    refine h.ascending.imp_of_mem fun hd he hlt ↦ ?_
    rw [hday _ hd, hday _ he]
    rw [Date.lt_iff] at hlt
    omega
  have hnumbers : (numbersFrom 1 (lengthOfMonth year month).toNat).Pairwise (· < ·) := by
    rw [numbersFrom, List.pairwise_map]
    exact List.pairwise_lt_range.imp fun hij ↦ by omega
  refine hdays.eq_of_mem_iff hnumbers fun n ↦ ?_
  rw [mem_numbersFrom, List.mem_map]
  constructor
  · rintro ⟨d, hd, rfl⟩
    have hbounds := (Date.inMonth_iff hy hm).mp ((h.mem_iff d).mp hd)
    rw [hday d hd]
    omega
  · intro hn
    have hbounds : 1 ≤ n ∧ n ≤ lengthOfMonth year month := by omega
    obtain ⟨d, -, hd⟩ := Date.of_eq_ok hy hm hbounds
    have hmem : d ∈ ds := (h.mem_iff d).mpr ((Date.inMonth_iff hy hm).mpr (by omega))
    refine ⟨d, hmem, ?_⟩
    rw [hday d hmem]
    omega

section

variable {year month : Int} (hy : 2 ≤ year ∧ year ≤ 9998) (hm : 1 ≤ month ∧ month ≤ 12)
include hy hm

/-- Among the dates of its grid, the dates of a month are those with its number. -/
theorem month_eq_iff {d : Date}
    (hd : d.number ∈ numbersFrom (firstSunday year month) (7 * weekCount year month)) :
    d.month = month ↔ d.InMonth year month := by
  refine ⟨fun hmonth ↦ ?_, And.right⟩
  by_contra hother
  have hprevious := monthBefore_bounds hy hm
  have hnext := monthAfter_bounds hy hm
  have hbefore := daysBefore_monthBefore year hm
  have hafter := daysBefore_monthAfter year hm
  have hlengthBefore := lengthOfMonth_bounds (monthBefore year month).1 (monthBefore year month).2
  have hlengthAfter := lengthOfMonth_bounds (monthAfter year month).1 (monthAfter year month).2
  have hcolumn := firstColumn_eq year month
  rw [mem_numbersFrom, firstSunday, weekCount] at hd
  rw [Date.inMonth_iff (by omega) hm] at hother
  have hsides : d.number ≤ daysBefore year month ∨
      daysBefore year month + lengthOfMonth year month < d.number := by omega
  obtain hearly | hlate := hsides
  · have hin : d.InMonth (monthBefore year month).1 (monthBefore year month).2 :=
      (Date.inMonth_iff hprevious.1 hprevious.2).mpr (by omega)
    exact monthBefore_ne year month (hin.2.symm.trans hmonth)
  · have hin : d.InMonth (monthAfter year month).1 (monthAfter year month).2 :=
      (Date.inMonth_iff hnext.1 hnext.2).mpr (by omega)
    exact monthAfter_ne year month (hin.2.symm.trans hmonth)

variable {ds : List Date}
  (h : ds.map Date.number = numbersFrom (firstSunday year month) (7 * weekCount year month))
include h

/-- The dates of a grid with the number of its month are the dates of the month. -/
theorem ascendingListOf_filter_month :
    AscendingListOf (ds.filter (·.month = month)) (·.InMonth year month) := by
  have hasc : AscendingListOf ds fun d ↦ d.number ∈
      numbersFrom (firstSunday year month) (7 * weekCount year month) := by
    refine (Date.ascendingListOf_numbers h (by omega)).congr fun d ↦ ?_
    rw [numbersFrom, List.mem_map]
    simp only [List.mem_range]
  refine (hasc.filter _).congr fun d ↦ ?_
  rw [decide_eq_true_eq]
  constructor
  · rintro ⟨hd, hmonth⟩
    exact (month_eq_iff hy hm hd).mp hmonth
  · intro hd
    have hbounds := (Date.inMonth_iff (by omega) hm).mp hd
    have hcolumn := firstColumn_eq year month
    refine ⟨?_, hd.2⟩
    rw [mem_numbersFrom, firstSunday, weekCount]
    omega

/-- Every week of a grid holds dates of its month, and after the first week a Sunday comes first. -/
theorem exists_filter_week {i : Nat} (hi : i < (weeks ds).length) :
    ∃ d rest, (weeks ds)[i].filter (·.month = month) = d :: rest ∧ (i ≠ 0 → d.weekday = 6) := by
  have hcolumn := firstColumn_eq year month
  have hlength := lengthOfMonth_bounds year month
  have hcount : i < weekCount year month := length_weeks h ▸ hi
  have hnumbers := map_number_getElem_weeks h hi
  have hinMonth {d : Date} (hlow : daysBefore year month < d.number)
      (hhigh : d.number ≤ daysBefore year month + lengthOfMonth year month) : d.month = month :=
    ((Date.inMonth_iff (by omega) hm).mpr ⟨hlow, hhigh⟩).2
  rw [weekCount] at hcount
  rw [firstSunday] at hnumbers
  by_cases hzero : i = 0
  · have hmem : daysBefore year month + 1 ∈ (weeks ds)[i].map Date.number := by
      rw [hnumbers, mem_numbersFrom]
      omega
    obtain ⟨d, hd, hn⟩ := List.mem_map.mp hmem
    have hown : d ∈ (weeks ds)[i].filter (·.month = month) :=
      List.mem_filter.mpr ⟨hd, decide_eq_true (hinMonth (by omega) (by omega))⟩
    obtain ⟨e, rest, he⟩ := List.exists_cons_of_ne_nil (List.ne_nil_of_mem hown)
    exact ⟨e, rest, he, fun hne ↦ absurd hzero hne⟩
  · rw [numbersFrom_succ] at hnumbers
    obtain ⟨d, rest, hweek, hn, -⟩ := List.map_eq_cons_iff.mp hnumbers
    have hmonth : d.month = month := hinMonth (by omega) (by omega)
    refine ⟨d, rest.filter (·.month = month), ?_, fun _ ↦ ?_⟩
    · rw [hweek]
      exact List.filter_cons_of_pos (decide_eq_true hmonth)
    · rw [Date.weekday_eq]
      omega

/-- The weeks of a grid part the dates of its month before the Sundays. -/
theorem filter_weeks : (weeks ds).map (·.filter (·.month = month)) =
    (ds.filter (·.month = month)).splitBy fun _ d ↦ d.weekday ≠ 6 := by
  have hcolumn := firstColumn_eq year month
  have hflatten := List.filter_flatten (p := (·.month = month)) (L := weeks ds)
  rw [flatten_weeks] at hflatten
  rw [hflatten]
  symm
  apply List.splitBy_flatten
  · intro hnil
    obtain ⟨i, hi, hweek⟩ := List.mem_iff_getElem.mp hnil
    rw [List.length_map] at hi
    obtain ⟨d, rest, hd, -⟩ := exists_filter_week hy hm h hi
    rw [List.getElem_map, hd] at hweek
    exact List.cons_ne_nil d rest hweek
  · -- of the dates of one week only the first can be a Sunday
    intro own hown
    obtain ⟨i, hi, rfl⟩ := List.mem_iff_getElem.mp hown
    rw [List.length_map] at hi
    have hsunday : (firstSunday year month + 7 * (i : Int)) % 7 = 0 := by
      rw [firstSunday]
      omega
    have hweek := pairwise_week hsunday (map_number_getElem_weeks h hi)
    rw [List.getElem_map]
    exact ((hweek.filter _).imp fun hne ↦ decide_eq_true hne).isChain
  · -- and that of the next week is one
    rw [List.isChain_iff_getElem]
    intro i hi
    rw [List.length_map] at hi
    obtain ⟨d, rest, hd, -⟩ := exists_filter_week hy hm h (i := i) (by omega)
    obtain ⟨e, rest', he, hsunday⟩ := exists_filter_week hy hm h hi
    simp only [List.getElem_map, hd, he]
    refine ⟨List.cons_ne_nil d rest, List.cons_ne_nil e rest', ?_⟩
    rw [List.head_cons, hsunday (Nat.succ_ne_zero i)]
    rfl

end

end Grid

end RuleCalendar
