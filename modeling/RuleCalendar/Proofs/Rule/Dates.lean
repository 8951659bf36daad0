import RuleCalendar.Proofs.Rule.Anchor

/-!
# The dates of any rule

What a rule has in a month, whatever its family. Main statements: every rule has its dates in every
month but the last of the calendar, and there too unless its search looks beyond the month; a rule
that can have several has them in the month itself, each once and in order; any other has at most
one.
-/

namespace RuleCalendar.Rule

variable {year month : Int} (hy : 1 ≤ year ∧ year ≤ 9999) (hm : 1 ≤ month ∧ month ≤ 12)

/-! ### Families that recur within a month -/

section

variable (hnext : HasNextMonth year month)
include hy hm hnext

/-- A daily rule has all dates of the month, or all its working days. -/
theorem datesIn_of_daily {r : Rule} (h : r.family = .daily) :
    ∃ ds, r.datesIn year month = .ok ds ∧ AscendingListOf ds fun d ↦
      d.InMonth year month ∧ (r.excludeWeekends = true → d.IsWorkingDay) := by
  have hroom := Date.daysBefore_le_of_next hy hm hnext
  obtain ⟨first, hfirst, hf⟩ := monthStart_ok hy hm
  obtain ⟨last, hlast, hl⟩ := monthEnd_ok hy hm
  obtain ⟨ds, hds, hnumbers⟩ := first.walk_ok last (Int.one_pos) (by omega) (by omega)
  refine ⟨ds.filter fun d ↦ !(r.excludeWeekends && d.isWeekend), ?_, ?_⟩
  · simp only [datesIn, h, hfirst, hlast, ok_bind, hds]
    rfl
  · refine ((Date.walk_ascending Int.one_pos hnumbers).filter _).congr fun d ↦ ?_
    rw [Date.inMonth_iff hy hm, Date.le_iff, Date.le_iff]
    refine and_congr ?_ ?_
    · simp only [one_dvd, and_true]
      omega
    · rw [Bool.not_and, Bool.or_eq_true, Date.not_isWeekend_iff]
      cases r.excludeWeekends <;> simp

/-- A weekly rule has all dates of the month on its weekday. -/
theorem datesIn_of_weekly {r : Rule} (h : r.family = .weekly ∨ r.family = .weekday) :
    ∃ ds, r.datesIn year month = .ok ds ∧ AscendingListOf ds fun d ↦
      d.InMonth year month ∧ d.weekday = r.weekday.getD 0 % 7 := by
  obtain ⟨ds, hds, hasc⟩ :=
    weekdaysOfMonth_ok hy hm hnext (r.weekday.getD 0) (.inl rfl)
  refine ⟨ds, ?_, hasc.congr fun d ↦ ?_⟩
  · obtain h | h := h <;> simp only [datesIn, h, hds]
  · have hday : (d.day - 1) % 7 < 7 := by omega
    simp only [hday, and_true]

/-- A biweekly rule has every other date of the month on its weekday, from the first one on. -/
theorem datesIn_of_biweekly {r : Rule} (h : r.family = .biweekly) :
    ∃ ds, r.datesIn year month = .ok ds ∧ AscendingListOf ds fun d ↦
      d.InMonth year month ∧ d.weekday = r.weekday.getD 0 % 7 ∧ (d.day - 1) % 14 < 7 := by
  obtain ⟨ds, hds, hasc⟩ :=
    weekdaysOfMonth_ok hy hm hnext (r.weekday.getD 0) (.inr rfl)
  exact ⟨ds, by simp only [datesIn, h, hds], hasc⟩

end

/-! ### All families -/

/-- The dates of a list, each once and in order, all in one month of a year. -/
def DistinctInMonth (ds : List Date) (year month : Int) : Prop :=
  ds.Pairwise (· < ·) ∧ ∀ d ∈ ds, d.InMonth year month

private theorem distinctInMonth_of_ascending {ds : List Date} {p : Date → Prop}
    (h : AscendingListOf ds fun d ↦ d.InMonth year month ∧ p d) : DistinctInMonth ds year month :=
  ⟨h.ascending, fun d hd ↦ ((h.mem_iff d).1 hd).1⟩

/-- At any anchor but every working day there is at most one date. -/
theorem length_anchoredDates {r : Rule} {ds : List Date} (h : r.anchor ≠ some .everyWorkingDay)
    (hds : r.anchoredDates year month = .ok ds) : ds.length ≤ 1 := by
  have hone : ∀ e : Except CalendarError Date, (do return [← e]) = .ok ds → ds.length ≤ 1 := by
    rintro (_ | d) he <;> cases he
    exact Nat.le_refl 1
  have hoption : ∀ e : Except CalendarError (Option Date), (do return (← e).toList) = .ok ds →
      ds.length ≤ 1 := by
    rintro (_ | _ | d) he <;> cases he
    · exact Nat.zero_le 1
    · exact Nat.le_refl 1
  have ha : r.anchor.getD .day ≠ .everyWorkingDay := by
    cases hr : r.anchor with
    | none => simp
    | some a =>
      rintro rfl
      exact h hr
  unfold anchoredDates at hds
  split at hds
  · next he => exact absurd he ha
  · exact hone _ hds
  · exact hone _ hds
  · exact hone _ hds
  · exact hoption _ hds
  · dsimp only at hds
    split at hds
    · exact hoption _ hds
    · exact hoption _ hds
  · exact hoption _ hds

/-- Whether a date is one of a month, moved by some shift. -/
def BelongsTo (d : Date) (year month : Int) : Prop :=
  ∃ n : Date, n.InMonth year month ∧ ∃ shift, n.shifted shift = .ok d

private theorem belongsTo_of_inMonth {d : Date} (h : d.InMonth year month) : BelongsTo d year month :=
  ⟨d, h, .none, d.shifted_none⟩

include hy hm in
/-- Every rule has its dates at its anchor, in the month or moved by a shift. -/
theorem anchoredDates_total (r : Rule)
    (hnext : r.anchor.getD .day = .ordinalWeekday → HasNextMonth year month) :
    ∃ ds, r.anchoredDates year month = .ok ds ∧ (∀ d ∈ ds, BelongsTo d year month) ∧
      (r.anchor = some .everyWorkingDay → DistinctInMonth ds year month) := by
  by_cases ha : r.anchor.getD .day = .day
  · obtain ⟨o, ho, hiff⟩ := anchoredDates_day hy hm ha
    refine ⟨o.toList, ho, fun d hd ↦ ?_, fun hevery ↦ by simp [hevery] at ha⟩
    obtain ⟨n, hn, -, hshift⟩ := (hiff d).1 (Option.mem_toList.1 hd)
    exact ⟨n, hn, r.shift, hshift⟩
  · obtain ⟨ds, hds, hasc⟩ := anchoredDates_ok_of_next hy hm hnext (absurd · ha)
    refine ⟨ds, hds, fun d hd ↦ ?_, fun _ ↦ distinctInMonth_of_ascending hasc⟩
    exact belongsTo_of_inMonth ((hasc.mem_iff d).1 hd).1

/-- What the dates of a rule in a month are like: they belong to the month, several only for a rule
that can have several, and then as distinct dates of the month. -/
structure RegularDates (r : Rule) (year month : Int) (ds : List Date) : Prop where
  belongs : ∀ d ∈ ds, BelongsTo d year month
  distinct : r.isMulti = true → DistinctInMonth ds year month
  length_le : r.isMulti = false → ds.length ≤ 1

private theorem regularDates_of_ascending {r : Rule} (hmulti : r.family.isMulti = true)
    {ds : List Date} {p : Date → Prop} (h : AscendingListOf ds fun d ↦ d.InMonth year month ∧ p d) :
    RegularDates r year month ds := by
  have hdistinct := distinctInMonth_of_ascending h
  refine ⟨fun d hd ↦ belongsTo_of_inMonth (hdistinct.2 d hd), fun _ ↦ hdistinct, fun hsingle ↦ ?_⟩
  simp [isMulti, hmulti] at hsingle

private theorem regularDates_nil (r : Rule) : RegularDates r year month [] :=
  ⟨nofun, fun _ ↦ ⟨.nil, nofun⟩, fun _ ↦ Nat.zero_le 1⟩

/-- Whether the search for the dates of a rule in a month looks for one beyond the month. -/
def LooksBeyond (r : Rule) (month : Int) : Prop :=
  r.family ∈ [.daily, .weekly, .weekday, .biweekly] ∨
    r.anchor = some .ordinalWeekday ∧ r.appliesTo month = true

section

include hy hm

private theorem regularDates_of_anchored {r : Rule} (h : r.family.isAnchored = true)
    (hnext : r.LooksBeyond month → HasNextMonth year month) :
    ∃ ds, r.datesIn year month = .ok ds ∧ RegularDates r year month ds := by
  have hfamily : r.family.isMulti = false := by
    cases hf : r.family <;> simp [hf, Family.isAnchored] at h <;> rfl
  rw [datesIn_of_isAnchored h]
  split
  · next hcovers =>
    have happlies : r.appliesTo month = true := by
      rw [coversMonth, Bool.and_eq_true] at hcovers
      exact hcovers.1
    have hordinal (ha : r.anchor.getD .day = .ordinalWeekday) : HasNextMonth year month := by
      apply hnext
      cases hr : r.anchor with
      | none => simp [hr] at ha
      | some a => exact .inr ⟨hr.trans (by rw [← ha, hr, Option.getD_some]), happlies⟩
    obtain ⟨ds, hds, hbelongs, hevery⟩ := anchoredDates_total hy hm r hordinal
    refine ⟨ds, hds, hbelongs, fun hmulti ↦ hevery ?_, fun hsingle ↦ length_anchoredDates ?_ hds⟩
    · simpa [isMulti, hfamily] using hmulti
    · simpa [isMulti, hfamily] using hsingle
  · exact ⟨[], rfl, regularDates_nil r⟩

/-- Every rule has its dates in every month after which the calendar goes on, and in the last month
unless its search looks beyond it. -/
theorem datesIn_ok (r : Rule) (hnext : r.LooksBeyond month → HasNextMonth year month) :
    ∃ ds, r.datesIn year month = .ok ds ∧ RegularDates r year month ds := by
  have hrecurring : r.family.isMulti = true → ∀ p : Date → Prop,
      (∃ ds, r.datesIn year month = .ok ds ∧
        AscendingListOf ds fun d ↦ d.InMonth year month ∧ p d) →
      ∃ ds, r.datesIn year month = .ok ds ∧ RegularDates r year month ds :=
    fun hmulti _ ⟨ds, hds, hasc⟩ ↦ ⟨ds, hds, regularDates_of_ascending hmulti hasc⟩
  by_cases hanchored : r.family.isAnchored = true
  · exact regularDates_of_anchored hy hm hanchored hnext
  · have hwalk (h : r.family ∈ [.daily, .weekly, .weekday, .biweekly]) :
        HasNextMonth year month := hnext (.inl h)
    cases hf : r.family with
    | daily =>
      exact hrecurring (by rw [hf]; rfl) _ (datesIn_of_daily hy hm (hwalk (by simp [hf])) hf)
    | weekly =>
      exact hrecurring (by rw [hf]; rfl) _
        (datesIn_of_weekly hy hm (hwalk (by simp [hf])) (.inl hf))
    | weekday =>
      exact hrecurring (by rw [hf]; rfl) _
        (datesIn_of_weekly hy hm (hwalk (by simp [hf])) (.inr hf))
    | biweekly =>
      exact hrecurring (by rw [hf]; rfl) _ (datesIn_of_biweekly hy hm (hwalk (by simp [hf])) hf)
    | unrecognized => exact ⟨[], by simp only [datesIn, hf]; rfl, regularDates_nil r⟩
    | _ => exact absurd (by rw [hf]; rfl) hanchored

end

/-- The dates of a rule in a month, none where they would lead beyond the calendar. -/
def dates (r : Rule) (year month : Int) : List Date :=
  match r.datesIn year month with
  | .ok ds => ds
  | .error _ => []

/-- Rules of an anchored family have the dates at their anchor in the months that they cover, and
none in others. -/
theorem dates_of_isAnchored {r : Rule} (h : r.family.isAnchored = true) {ds : List Date}
    (hds : r.anchoredDates year month = .ok ds) :
    r.dates year month = if r.coversMonth year month then ds else [] := by
  rw [dates, datesIn_of_isAnchored h, hds]
  split
  · next ds' heq =>
    split at heq
    · next hcovers =>
      rw [if_pos hcovers]
      exact (Except.ok.inj heq).symm
    · next hcovers =>
      rw [if_neg hcovers]
      exact (Except.ok.inj heq).symm
  · next heq =>
    split at heq
    · cases heq
    · cases heq

include hy hm in
/-- A rule has its dates in a month after which the calendar goes on as far as it looks. -/
theorem datesIn_eq_dates_of_next (r : Rule)
    (hnext : r.LooksBeyond month → HasNextMonth year month) :
    r.datesIn year month = .ok (r.dates year month) := by
  obtain ⟨ds, hds, -⟩ := datesIn_ok hy hm r hnext
  rw [dates, hds]

/-- The dates of a rule in a month of the calendar but its last year are regular. -/
theorem regularDates_dates (hy : 1 ≤ year ∧ year ≤ 9998) (hm : 1 ≤ month ∧ month ≤ 12)
    (r : Rule) : RegularDates r year month (r.dates year month) := by
  obtain ⟨ds, hds, hregular⟩ := datesIn_ok ⟨hy.1, by omega⟩ hm r fun _ ↦ .inl hy.2
  rwa [dates, hds]

/-- What belongs to a month is at most two days before it or after it. -/
theorem BelongsTo.number_bounds (hy : 1 ≤ year ∧ year ≤ 9999) (hm : 1 ≤ month ∧ month ≤ 12)
    {d : Date} (h : BelongsTo d year month) : daysBefore year month - 2 < d.number ∧
      d.number ≤ daysBefore year month + lengthOfMonth year month + 2 := by
  obtain ⟨n, hn, shift, hshift⟩ := h
  obtain ⟨e, he, hle, hle'⟩ := n.shifted_ok shift
  rw [hshift] at he
  cases he
  rw [Date.inMonth_iff hy hm] at hn
  omega

end RuleCalendar.Rule
