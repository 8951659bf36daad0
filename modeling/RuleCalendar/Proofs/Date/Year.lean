import RuleCalendar.Proofs.Date.Month

/-!
# The dates of a year

A year is its twelve months in a row. Main statements: the dates with a property that each month
has, in order, make the dates of the year with the property, in order; and of two dates that follow
each other among those of a year on a weekday, the second is a week after the first, or one or two
weeks where every other week of a month counts.
-/

namespace RuleCalendar

variable {year : Int}

/-! ### Months in a row -/

/-- A month begins where the month before it ends. -/
theorem daysBefore_succ (year : Int) {month : Int} (hm : 1 ≤ month ∧ month ≤ 11) :
    daysBefore year (month + 1) = daysBefore year month + lengthOfMonth year month := by
  have hcases : month = 1 ∨ month = 2 ∨ month = 3 ∨ month = 4 ∨ month = 5 ∨ month = 6 ∨
      month = 7 ∨ month = 8 ∨ month = 9 ∨ month = 10 ∨ month = 11 := by omega
  simp only [daysBefore, lengthOfMonth]
  cases isLeap year <;>
    rcases hcases with rfl | rfl | rfl | rfl | rfl | rfl | rfl | rfl | rfl | rfl | rfl <;>
    simp [monthLength, daysBeforeMonth] <;> omega

private theorem daysBefore_le_daysBefore (year : Int) {month month' : Int} (h : month ≤ month') :
    daysBefore year month ≤ daysBefore year month' := by
  simp only [daysBefore, daysBeforeMonth]
  omega

namespace Date

variable {d e : Date}

/-- A date is before another if its number is less. -/
theorem lt_iff : d < e ↔ d.number < e.number := Iff.rfl

/-- The dates of a month come before those of a later month of the year. -/
theorem lt_of_month_lt {month month' : Int} (hd : d.InMonth year month)
    (he : e.InMonth year month') (h : month < month') : d < e := by
  have hmonth := d.month_bounds
  have hmonth' := e.month_bounds
  have hday := d.day_bounds
  have hday' := e.day_bounds
  have hn := d.number_eq
  have hn' := e.number_eq
  rw [hd.1, hd.2] at hday hn
  rw [he.1, he.2] at hn'
  rw [hd.2] at hmonth
  rw [he.2] at hmonth'
  have hseam := daysBefore_succ year (show 1 ≤ month ∧ month ≤ 11 by omega)
  have hrest := daysBefore_le_daysBefore year (show month + 1 ≤ month' by omega)
  rw [lt_iff]
  omega

end Date

/-- The dates of the months of a year with a property, one month after the other, are the dates of
the year with the property. -/
theorem AscendingListOf.flatMap {f : Int → List Date} {p : Date → Prop} {ms : List Int}
    (hms : ms.Pairwise (· < ·)) (hall : ∀ m, m ∈ ms ↔ 1 ≤ m ∧ m ≤ 12)
    (h : ∀ m ∈ ms, AscendingListOf (f m) fun d ↦ d.InMonth year m ∧ p d) :
    AscendingListOf (ms.flatMap f) fun d ↦ d.year = year ∧ p d := by
  constructor
  · rw [List.pairwise_flatMap]
    refine ⟨fun m hm ↦ (h m hm).ascending, hms.imp_of_mem fun hm hm' hlt d hd e he ↦ ?_⟩
    have hdm := ((h _ hm).mem_iff d).1 hd
    have hem := ((h _ hm').mem_iff e).1 he
    exact Date.lt_of_month_lt hdm.1 hem.1 hlt
  · intro d
    rw [List.mem_flatMap]
    constructor
    · rintro ⟨m, hm, hd⟩
      obtain ⟨hin, hp⟩ := ((h m hm).mem_iff d).1 hd
      exact ⟨hin.1, hp⟩
    · rintro ⟨hyear, hp⟩
      have hm := (hall d.month).2 d.month_bounds
      exact ⟨d.month, hm, ((h _ hm).mem_iff d).2 ⟨⟨hyear, rfl⟩, hp⟩⟩

/-- What holds between two dates with a property that have none with it between them, holds between
neighbours in the list of the dates with the property. -/
theorem AscendingListOf.isChain {ds : List Date} {p : Date → Prop} {R : Date → Date → Prop}
    (h : AscendingListOf ds p)
    (hR : ∀ d e, p d → p e → d < e → (∀ f, p f → d < f → e ≤ f) → R d e) : ds.IsChain R := by
  have hlt := List.pairwise_iff_getElem.1 h.ascending
  rw [List.isChain_iff_getElem]
  intro i hi
  refine hR _ _ ((h.mem_iff _).1 (List.getElem_mem _)) ((h.mem_iff _).1 (List.getElem_mem _))
    (hlt i (i + 1) _ hi (by omega)) fun f hf hdf ↦ ?_
  obtain ⟨j, hj, rfl⟩ := List.mem_iff_getElem.1 ((h.mem_iff f).2 hf)
  have hij : i < j := by
    by_contra hji
    obtain rfl | hlt' : j = i ∨ j < i := by omega
    · exact Int.lt_irrefl _ hdf
    · exact Int.lt_asymm hdf (hlt j i hj (by omega) hlt')
  obtain rfl | hnext : j = i + 1 ∨ i + 1 < j := by omega
  · exact Int.le_refl _
  · exact Int.le_of_lt (hlt (i + 1) j hi hj hnext)

/-! ### Weeks -/

namespace Date

variable {d e : Date}

/-- A date between two dates of a year lies in the year. -/
theorem year_of_between {f : Date} (hd : d.year = year) (he : e.year = year) (hdf : d ≤ f)
    (hfe : f ≤ e) : f.year = year := by
  have hlow := d.number_in_year.1
  have hhigh := e.number_in_year.2
  rw [hd] at hlow
  rw [he] at hhigh
  rw [le_iff] at hdf hfe
  exact year_eq (by omega) (by omega)

/-- Later dates on a weekday are at least a week later. -/
theorem seven_le_of_weekday_eq (h : d < e) (hw : d.weekday = e.weekday) :
    d.number + 7 ≤ e.number := by
  rw [lt_iff] at h
  rw [weekday_eq, weekday_eq] at hw
  omega

/-- The date some days later, as long as there is a date at least as late. -/
theorem exists_later {k : Int} (hk : 0 ≤ k) (h : d.number + k ≤ e.number) :
    ∃ f : Date, f.number = d.number + k := by
  have hone := d.one_le
  have hlast := e.le_last
  obtain ⟨f, -, hf⟩ := addDays_ok (d := d) (k := k) (by omega)
  exact ⟨f, hf⟩

end Date

/-- The dates of a year on a weekday follow each other week by week. -/
theorem AscendingListOf.isChain_week {ds : List Date} {weekday : Int}
    (h : AscendingListOf ds fun d ↦ d.year = year ∧ d.weekday = weekday) :
    ds.IsChain fun d e ↦ e.number = d.number + 7 := by
  refine h.isChain fun d e hd he hlt hnone ↦ ?_
  have hweek := Date.seven_le_of_weekday_eq hlt (hd.2.trans he.2.symm)
  obtain ⟨f, hf⟩ := Date.exists_later (by decide) hweek
  have hfyear : f.year = year :=
    Date.year_of_between hd.1 he.1 (Date.le_iff.2 (by omega)) (Date.le_iff.2 (by omega))
  have hfweekday : f.weekday = weekday := by
    rw [← hd.2, Date.weekday_eq, Date.weekday_eq]
    omega
  have hle := Date.le_iff.1 (hnone f ⟨hfyear, hfweekday⟩ (Date.lt_iff.2 (by omega)))
  omega

/-! ### Every other week -/

/-- Whether a weekday falls on five dates of a month. -/
def FallsFiveTimes (weekday year month : Int) : Prop :=
  ∃ ds : List Date, ds.length = 5 ∧
    AscendingListOf ds fun d ↦ d.InMonth year month ∧ d.weekday = weekday

namespace Date

variable {d e : Date}

/-- Whether a date is among the first, the third or the fifth seven days of its month. -/
def InOddWeek (d : Date) : Prop :=
  (1 ≤ d.day ∧ d.day ≤ 7) ∨ (15 ≤ d.day ∧ d.day ≤ 21) ∨ (29 ≤ d.day ∧ d.day ≤ 31)

/-- The remainder of a day by fourteen tells whether its week of the month is an odd one. -/
theorem mod_fourteen_lt_iff (d : Date) : (d.day - 1) % 14 < 7 ↔ d.InOddWeek := by
  have hday := d.day_bounds
  have hlength := lengthOfMonth_bounds d.year d.month
  unfold InOddWeek
  omega

/-- Whether a date is two weeks after another or, where a month ends between them that has five
dates on the weekday, one week. -/
structure IsFortnightAfter (e d : Date) : Prop where
  across : e.month ≠ d.month → FallsFiveTimes d.weekday d.year d.month → e.number = d.number + 7
  otherwise : e.month = d.month ∨ ¬FallsFiveTimes d.weekday d.year d.month →
    e.number = d.number + 14

/-- A weekday that falls on five dates of a month falls on one after the 28th. -/
theorem exists_late_of_fallsFiveTimes {weekday month : Int}
    (h : FallsFiveTimes weekday year month) :
    ∃ d : Date, d.InMonth year month ∧ d.weekday = weekday ∧ 29 ≤ d.day := by
  obtain ⟨ds, hlength, hasc⟩ := h
  match ds, hlength with
  | [a, b, c, d, e], _ =>
    have hmem : ∀ f ∈ [a, b, c, d, e], f.InMonth year month ∧ f.weekday = weekday :=
      fun f hf ↦ (hasc.mem_iff f).1 hf
    have hweek : [a, b, c, d, e].Pairwise fun f g ↦ f.number + 7 ≤ g.number :=
      hasc.ascending.imp_of_mem fun {f g} hf hg hfg ↦
        seven_le_of_weekday_eq hfg ((hmem f hf).2.trans (hmem g hg).2.symm)
    simp only [List.pairwise_cons, List.mem_cons, List.not_mem_nil, or_false, forall_eq_or_imp,
      forall_eq] at hweek
    obtain ⟨ha, hwa⟩ := hmem a (by simp)
    obtain ⟨he, hwe⟩ := hmem e (by simp)
    refine ⟨e, he, hwe, ?_⟩
    have hday := a.day_bounds
    rw [ha.day_eq] at hday
    rw [he.day_eq]
    omega

/-- A weekday that falls on a date after the 28th falls on five dates of the month. -/
theorem fallsFiveTimes_of_late (hyear : 1 ≤ d.year ∧ d.year ≤ 9998) (h : 29 ≤ d.day) :
    FallsFiveTimes d.weekday d.year d.month := by
  have hy : 1 ≤ d.year ∧ d.year ≤ 9999 := ⟨hyear.1, by omega⟩
  have hlength := lengthOfMonth_bounds d.year d.month
  have hday := d.day_bounds
  have hn := d.number_eq
  obtain ⟨ds, first, last, hds, hlast, hweekday, hlow, hhigh, hnumbers⟩ :=
    weekdaysOfMonth_walk hy d.month_bounds (.inl hyear.2) d.weekday 7 (by decide) (by decide)
  obtain ⟨ds', hds', hasc⟩ :=
    weekdaysOfMonth_ok hy d.month_bounds (.inl hyear.2) d.weekday (.inl rfl)
  obtain rfl : ds = ds' := Except.ok.inj (hds.symm.trans hds')
  refine ⟨ds, ?_, hasc.congr fun f ↦ ?_⟩
  · have hcount := congrArg List.length hnumbers
    rw [List.length_map, List.length_map, List.length_range] at hcount
    rw [weekday_eq, weekday_eq] at hweekday
    omega
  · have hw := weekday_eq d
    exact and_congr_right fun _ ↦ by omega

/-- The date some days later, while the month lasts. -/
theorem inMonth_of_add {f : Date} {k : Int} (hf : f.number = d.number + k) (hk : 0 ≤ k)
    (h : d.day + k ≤ lengthOfMonth d.year d.month) :
    f.InMonth d.year d.month ∧ f.day = d.day + k := by
  have hn := d.number_eq
  have hday := d.day_bounds
  have hin : f.InMonth d.year d.month :=
    (inMonth_iff d.year_bounds d.month_bounds).2 (by omega)
  rw [hin.day_eq]
  exact ⟨hin, by omega⟩

/-- The date some days later, across the end of the month. -/
theorem inMonth_succ_of_add {f : Date} {k : Int} (hf : f.number = d.number + k)
    (hmonth : d.month ≤ 11) (h : lengthOfMonth d.year d.month < d.day + k)
    (h' : d.day + k ≤ lengthOfMonth d.year d.month + 28) :
    f.InMonth d.year (d.month + 1) ∧ f.day = d.day + k - lengthOfMonth d.year d.month := by
  have hn := d.number_eq
  have hm := d.month_bounds
  have hlength := lengthOfMonth_bounds d.year (d.month + 1)
  have hseam := daysBefore_succ d.year ⟨hm.1, hmonth⟩
  have hin : f.InMonth d.year (d.month + 1) :=
    (inMonth_iff d.year_bounds (by omega)).2 (by omega)
  rw [hin.day_eq]
  exact ⟨hin, by omega⟩

/-- A later date of a year that is too late for a month lies in a later month. -/
theorem month_lt_of_add (hyear : e.year = d.year)
    (h : d.number + (lengthOfMonth d.year d.month - d.day) < e.number) : d.month < e.month := by
  have hday := d.day_bounds
  by_contra hle
  obtain heq | hlt : e.month = d.month ∨ e.month < d.month := by omega
  · have hday' := e.day_bounds
    have hn := d.number_eq
    have hn' := e.number_eq
    rw [hyear, heq] at hday' hn'
    omega
  · have hback := lt_of_month_lt ⟨hyear, rfl⟩ ⟨rfl, rfl⟩ hlt
    rw [lt_iff] at hback
    omega

/-- After a date past the 28th, the next one in an odd week is a week later. -/
theorem number_of_next_late (hlate : 29 ≤ d.day) (hyear : e.year = d.year)
    (hweek : d.number + 7 ≤ e.number)
    (hnone : ∀ f : Date, f.year = d.year → f.weekday = d.weekday → f.InOddWeek → d < f → e ≤ f) :
    d.month < e.month ∧ e.number = d.number + 7 := by
  have hlength := lengthOfMonth_bounds d.year d.month
  have hday := d.day_bounds
  have hmonths := e.month_bounds
  have hlater : d.month < e.month := month_lt_of_add hyear (by omega)
  obtain ⟨f, hf⟩ := exists_later (by decide) hweek
  obtain ⟨hin, hfday⟩ := inMonth_succ_of_add hf (by omega) (by omega) (by omega)
  have hodd : f.InOddWeek := .inl (by omega)
  have hfweekday : f.weekday = d.weekday := by
    rw [weekday_eq, weekday_eq]
    omega
  have hle := le_iff.1 (hnone f hin.1 hfweekday hodd (lt_iff.2 (by omega)))
  exact ⟨hlater, by omega⟩

/-- After a date before the 29th, the next one in an odd week is two weeks later. -/
theorem number_of_next_early (hd : d.InOddWeek) (hearly : d.day < 29) (he : e.InOddWeek)
    (hyear : e.year = d.year) (hweekday : e.weekday = d.weekday) (hlt : d < e)
    (hnone : ∀ f : Date, f.year = d.year → f.weekday = d.weekday → f.InOddWeek → d < f → e ≤ f) :
    e.number = d.number + 14 := by
  have hlength := lengthOfMonth_bounds d.year d.month
  have hweek := seven_le_of_weekday_eq hlt hweekday.symm
  have hskip : e.number ≠ d.number + 7 := by
    intro hnext
    obtain ⟨-, heday⟩ :=
      inMonth_of_add hnext (by decide) (by unfold InOddWeek at hd; omega)
    unfold InOddWeek at hd he
    omega
  have hfortnight : d.number + 14 ≤ e.number := by
    rw [weekday_eq, weekday_eq] at hweekday
    omega
  obtain ⟨f, hf⟩ := exists_later (by decide) hfortnight
  have hfweekday : f.weekday = d.weekday := by
    rw [weekday_eq, weekday_eq]
    omega
  have hfodd : f.year = d.year ∧ f.InOddWeek := by
    unfold InOddWeek at hd ⊢
    by_cases hsame : d.day + 14 ≤ lengthOfMonth d.year d.month
    · obtain ⟨hin, hfday⟩ := inMonth_of_add hf (by decide) hsame
      exact ⟨hin.1, by omega⟩
    · have hmonths := e.month_bounds
      have hlater : d.month < e.month := month_lt_of_add hyear (by omega)
      obtain ⟨hin, hfday⟩ := inMonth_succ_of_add hf (by omega) (by omega) (by omega)
      exact ⟨hin.1, by omega⟩
  have hle := le_iff.1 (hnone f hfodd.1 hfweekday hfodd.2 (lt_iff.2 (by omega)))
  omega

/-- Of two dates of a year on a weekday, both in odd weeks with none such between them, the second
is a fortnight after the first. -/
theorem isFortnightAfter_of_next (hy : 1 ≤ d.year ∧ d.year ≤ 9998) (hd : d.InOddWeek)
    (he : e.InOddWeek) (hyear : e.year = d.year) (hweekday : e.weekday = d.weekday) (hlt : d < e)
    (hnone : ∀ f : Date, f.year = d.year → f.weekday = d.weekday → f.InOddWeek → d < f → e ≤ f) :
    e.IsFortnightAfter d := by
  by_cases hlate : 29 ≤ d.day
  · have hweek := seven_le_of_weekday_eq hlt hweekday.symm
    obtain ⟨hlater, hnext⟩ := number_of_next_late hlate hyear hweek hnone
    refine ⟨fun _ _ ↦ hnext, fun h ↦ ?_⟩
    obtain hsame | hfew := h
    · omega
    · exact absurd (fallsFiveTimes_of_late hy hlate) hfew
  · have hnext := number_of_next_early hd (by omega) he hyear hweekday hlt hnone
    refine ⟨fun hacross hfive ↦ ?_, fun _ ↦ hnext⟩
    -- the fifth date of the month on the weekday would lie between the two
    obtain ⟨g, hg, hgweekday, hglate⟩ := exists_late_of_fallsFiveTimes hfive
    have hgday := g.day_bounds
    have hn := d.number_eq
    rw [hg.1, hg.2] at hgday
    have hlong : lengthOfMonth d.year d.month < d.day + 14 := by
      by_contra hshort
      exact hacross (inMonth_of_add hnext (by decide) (by omega)).1.2
    rw [hg.day_eq] at hgday hglate
    rw [weekday_eq, weekday_eq] at hgweekday
    unfold InOddWeek at hd
    omega

end Date

/-- The dates of a year on a weekday in the odd weeks of their months follow each other fortnight by
fortnight. -/
theorem AscendingListOf.isChain_fortnight {ds : List Date} {weekday : Int}
    (hy : 1 ≤ year ∧ year ≤ 9998)
    (h : AscendingListOf ds fun d ↦ d.year = year ∧ d.weekday = weekday ∧ d.InOddWeek) :
    ds.IsChain fun d e ↦ e.IsFortnightAfter d := by
  refine h.isChain fun d e hd he hlt hnone ↦ ?_
  obtain ⟨hyear, hweekday, hodd⟩ := hd
  obtain ⟨hyear', hweekday', hodd'⟩ := he
  rw [← hyear] at hy hyear'
  rw [← hweekday] at hweekday'
  refine Date.isFortnightAfter_of_next hy hodd hodd' hyear' hweekday' hlt fun f hf hfw hfodd ↦ ?_
  exact hnone f ⟨hf.trans hyear, hfw.trans hweekday, hfodd⟩

/-! ### Years of four digits -/

namespace Date

variable {d : Date}

/-- The dates from the year 1000 on. -/
theorem thousand_le_year_iff : 1000 ≤ d.year ↔ 364877 < d.number := by
  have hstart : daysBeforeYear 1000 = 364877 := by decide
  obtain ⟨hlow, hhigh⟩ := d.number_in_year
  constructor
  · intro h
    have hmono := daysBeforeYear_le h
    omega
  · intro h
    by_contra hbefore
    have hmono := daysBeforeYear_le (show d.year + 1 ≤ 1000 by omega)
    omega

/-- No shift leads before the year 1000, which begins on a Wednesday. -/
theorem thousand_le_year_of_shifted {n : Date} {shift : Shift} (h : n.shifted shift = .ok d)
    (hn : 1000 ≤ n.year) : 1000 ≤ d.year := by
  rw [thousand_le_year_iff] at hn ⊢
  by_cases hwork : n.IsWorkingDay
  · rw [shifted_of_isWorkingDay hwork] at h
    cases h
    exact hn
  · obtain ⟨e, he, hle, -⟩ := n.shifted_ok shift
    rw [h] at he
    cases he
    rw [IsWorkingDay, weekday_eq] at hwork
    omega

end Date

end RuleCalendar
