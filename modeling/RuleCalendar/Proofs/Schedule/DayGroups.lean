import Mathlib.Data.Prod.Lex
import RuleCalendar.Proofs.Date.Year
import RuleCalendar.Proofs.Schedule.Discovery

/-!
# Events grouped by day

Events are grouped by month and day, whatever their years. Main statement: read in the order of the
groups, the events of a year come back sorted by month and day, those of each calendar year in the
order in which they were. A weekend shift can bring an event into a neighbouring year, where it
stands at the other end of the groups and, on four days of the year, beside events of the year.
-/

namespace RuleCalendar

namespace Event

/-- The month and the day of an event, in the order of the days of a year. -/
def monthDay (e : Event) : Int ×ₗ Int := toLex (e.month, e.date.day)

/-- The events of groups by month and day, in the order of the groups. -/
def ungrouped (groups : List (Int × List (Int × List Event))) : List Event :=
  groups.flatMap fun g ↦ g.2.flatMap (·.2)

/-- The numbers that days of a month have. -/
def monthDays : List Int := (List.range 31).map fun (i : Nat) ↦ (i : Int) + 1

private theorem mem_monthDays {d : Int} : d ∈ monthDays ↔ 1 ≤ d ∧ d ≤ 31 := by
  simp only [monthDays, List.mem_map, List.mem_range]
  constructor
  · rintro ⟨i, hi, rfl⟩
    omega
  · intro h
    exact ⟨(d - 1).toNat, by omega, by omega⟩

private theorem byDay_eq (events : List Event) : byDay events =
    (groupBy month Schedule.months events).map fun g ↦
      (g.1, groupBy (·.date.day) monthDays g.2) := rfl

private theorem monthDay_eq_iff {e f : Event} :
    e.monthDay = f.monthDay ↔ e.month = f.month ∧ e.date.day = f.date.day := by
  rw [monthDay, monthDay, toLex_inj, Prod.mk.injEq]

private theorem monthDay_le_iff {e f : Event} : e.monthDay ≤ f.monthDay ↔
    e.month < f.month ∨ e.month = f.month ∧ e.date.day ≤ f.date.day := Prod.Lex.toLex_le_toLex

private theorem mem_months (e : Event) : e.month ∈ Schedule.months :=
  Schedule.mem_months_iff.mpr e.date.month_bounds

private theorem day_mem_monthDays (e : Event) : e.date.day ∈ monthDays := by
  have hday := e.date.day_bounds
  have hlength := lengthOfMonth_bounds e.date.year e.date.month
  rw [mem_monthDays]
  omega

/-! ### Groups -/

/-- The events of a month and day, whatever their years. -/
def onMonthDay (month day : Int) (events : List Event) : List Event :=
  events.filter fun e ↦ e.month = month ∧ e.date.day = day

private theorem mem_onMonthDay {m d : Int} {events : List Event} {e : Event} :
    e ∈ onMonthDay m d events ↔ e ∈ events ∧ e.month = m ∧ e.date.day = d := by
  simp [onMonthDay]

/-- A group holds the events of its key in their order, and there is one. -/
theorem mem_groupBy {key : Event → Int} {keys : List Int} {events : List Event}
    {g : Int × List Event} (h : g ∈ groupBy key keys events) :
    g.2 = events.filter (key · = g.1) ∧ g.2 ≠ [] := by
  simp only [groupBy, List.mem_filter, List.mem_map] at h
  obtain ⟨⟨k, -, rfl⟩, hne⟩ := h
  constructor
  · simp [beq_eq_decide]
  · simpa using hne

/-- The groups stand in the order of their keys. -/
theorem pairwise_groupBy (key : Event → Int) {keys : List Int} (h : keys.Pairwise (· < ·))
    (events : List Event) : (groupBy key keys events).Pairwise fun g g' ↦ g.1 < g'.1 := by
  apply List.Pairwise.filter
  rw [List.pairwise_map]
  exact h

/-- Keys without a group add nothing to what is made of the groups. -/
theorem flatMap_groupBy {α : Type} {f : List Event → List α} (hf : f [] = [])
    (key : Event → Int) (keys : List Int) (events : List Event) :
    (groupBy key keys events).flatMap (fun g ↦ f g.2) =
      keys.flatMap fun k ↦ f (events.filter (key · = k)) := by
  induction keys with
  | nil => rfl
  | cons k keys ih =>
    simp only [groupBy, beq_eq_decide] at ih ⊢
    rw [List.map_cons, List.flatMap_cons, ← ih]
    by_cases hempty : events.filter (key · = k) = []
    · rw [List.filter_cons_of_neg (by simp [hempty]), hempty, hf, List.nil_append]
    · rw [List.filter_cons_of_pos (by simpa using hempty), List.flatMap_cons]

private theorem ungrouped_byDay_eq (events : List Event) : ungrouped (byDay events) =
    Schedule.months.flatMap fun m ↦ monthDays.flatMap fun d ↦ onMonthDay m d events := by
  have hdays : ∀ m, (groupBy (·.date.day) monthDays (events.filter (·.month = m))).flatMap (·.2) =
      monthDays.flatMap fun d ↦ onMonthDay m d events := by
    intro m
    rw [flatMap_groupBy (f := fun es ↦ es) rfl]
    simp only [List.filter_filter, onMonthDay, Bool.decide_and, Bool.and_comm]
  simp only [ungrouped, byDay_eq, List.flatMap_map]
  rw [flatMap_groupBy (f := fun es ↦ (groupBy (·.date.day) monthDays es).flatMap (·.2)) rfl]
  simp only [hdays]

/-- What is in the groups and in their buckets. -/
structure IsDayGroup (events : List Event) (g : Int × List (Int × List Event)) : Prop where
  days : g.2.Pairwise fun b b' ↦ b.1 < b'.1
  bucket : ∀ b ∈ g.2, b.2 = onMonthDay g.1 b.1 events ∧ b.2 ≠ []

private theorem isDayGroup_of_mem_byDay {events : List Event} {g : Int × List (Int × List Event)}
    (h : g ∈ byDay events) : IsDayGroup events g := by
  rw [byDay_eq, List.mem_map] at h
  obtain ⟨⟨m, es⟩, hes, rfl⟩ := h
  have hmonth := (mem_groupBy hes).1
  constructor
  · exact pairwise_groupBy _ (by decide) es
  · intro b hb
    obtain ⟨hday, hne⟩ := mem_groupBy hb
    refine ⟨?_, hne⟩
    rw [hday, hmonth]
    simp only [List.filter_filter, onMonthDay, Bool.decide_and, Bool.and_comm]

/-! ### The groups in a row -/

/-- Events that all come from one key are found among the events of that key. -/
theorem filter_flatMap_of_mem {keys : List Int} (hnodup : keys.Nodup) {k : Int} (hk : k ∈ keys)
    {f : Int → List Event} {p : Event → Bool} (h : ∀ k', k' ≠ k → (f k').filter p = []) :
    (keys.flatMap f).filter p = (f k).filter p := by
  induction keys with
  | nil => exact absurd hk List.not_mem_nil
  | cons k' keys ih =>
    obtain ⟨habsent, hnodup⟩ := List.nodup_cons.mp hnodup
    rw [List.flatMap_cons, List.filter_append]
    by_cases hsame : k' = k
    · subst hsame
      have hrest : (keys.flatMap f).filter p = [] := by
        rw [List.filter_flatMap, List.flatMap_eq_nil_iff]
        intro k hmem
        apply h
        rintro rfl
        exact habsent hmem
      rw [hrest, List.append_nil]
    · have hmem : k ∈ keys := by
        rw [List.mem_cons] at hk
        exact hk.resolve_left fun heq ↦ hsame heq.symm
      rw [h k' hsame, List.nil_append, ih hnodup hmem]

/-- Events of one month and day keep their order. -/
theorem filter_ungrouped_byDay (events : List Event) {p : Event → Bool}
    (hp : ∀ e f, p e = true → p f = true → e.monthDay = f.monthDay) :
    (ungrouped (byDay events)).filter p = events.filter p := by
  by_cases hsome : ∃ e, p e = true
  · obtain ⟨e, he⟩ := hsome
    have hsame : ∀ f, p f = true → f.month = e.month ∧ f.date.day = e.date.day := fun f hf ↦
      monthDay_eq_iff.mp (hp f e hf he)
    have hnone : ∀ m d, ¬(m = e.month ∧ d = e.date.day) →
        (onMonthDay m d events).filter p = [] := by
      intro m d hother
      rw [List.filter_eq_nil_iff]
      intro f hf hpf
      obtain ⟨-, rfl, rfl⟩ := mem_onMonthDay.mp hf
      exact hother (hsame f hpf)
    rw [ungrouped_byDay_eq, filter_flatMap_of_mem (by decide) (mem_months e),
      filter_flatMap_of_mem (by decide) (day_mem_monthDays e)]
    · rw [onMonthDay, List.filter_filter]
      apply List.filter_congr
      intro f _
      cases hpf : p f with
      | true => simp [hsame f hpf]
      | false => rfl
    · intro d hd
      exact hnone _ d fun h ↦ hd h.2
    · intro m hm
      rw [List.filter_flatMap, List.flatMap_eq_nil_iff]
      intro d _
      exact hnone m d fun h ↦ hm h.1
  · have hnone : ∀ es : List Event, es.filter p = [] := by
      intro es
      rw [List.filter_eq_nil_iff]
      exact fun e _ he ↦ hsome ⟨e, he⟩
    rw [hnone, hnone]

/-- The groups are in the order of the days of a year. -/
theorem pairwise_ungrouped_byDay (events : List Event) :
    (ungrouped (byDay events)).Pairwise fun e f ↦ e.monthDay ≤ f.monthDay := by
  have hmonths : Schedule.months.Pairwise (· < ·) := by decide
  have hdays : monthDays.Pairwise (· < ·) := by decide
  rw [ungrouped_byDay_eq, List.pairwise_flatMap]
  constructor
  · intro m _
    rw [List.pairwise_flatMap]
    constructor
    · intro d _
      apply List.pairwise_of_forall_mem_list
      intro e he f hf
      obtain ⟨-, hm, hd⟩ := mem_onMonthDay.mp he
      obtain ⟨-, hm', hd'⟩ := mem_onMonthDay.mp hf
      rw [monthDay_le_iff]
      omega
    · refine hdays.imp fun hlt e he f hf ↦ ?_
      obtain ⟨-, hm, hd⟩ := mem_onMonthDay.mp he
      obtain ⟨-, hm', hd'⟩ := mem_onMonthDay.mp hf
      rw [monthDay_le_iff]
      omega
  · refine hmonths.imp fun hlt e he f hf ↦ ?_
    obtain ⟨d, -, he⟩ := List.mem_flatMap.mp he
    obtain ⟨d', -, hf⟩ := List.mem_flatMap.mp hf
    obtain ⟨-, hm, -⟩ := mem_onMonthDay.mp he
    obtain ⟨-, hm', -⟩ := mem_onMonthDay.mp hf
    rw [monthDay_le_iff]
    omega

private theorem filter_date_ungrouped_byDay (events : List Event) (d : Date) :
    (ungrouped (byDay events)).filter (·.date = d) = events.filter (·.date = d) := by
  apply filter_ungrouped_byDay
  intro e f he hf
  have hsame : e.date = f.date := (of_decide_eq_true he).trans (of_decide_eq_true hf).symm
  rw [monthDay_eq_iff, month, month, hsame]
  exact ⟨rfl, rfl⟩

/-- No event is lost in the groups or doubled. -/
theorem ungrouped_byDay_perm (events : List Event) : (ungrouped (byDay events)).Perm events :=
  perm_of_filter_date_eq (filter_date_ungrouped_byDay events)

/-- An event is in a bucket together with all events of its month and day. -/
theorem exists_bucket {events : List Event} {e : Event} (he : e ∈ events) :
    ∃ g ∈ byDay events, ∃ b ∈ g.2, b.2 = onMonthDay e.month e.date.day events := by
  obtain ⟨g, hg, hmem⟩ := List.mem_flatMap.mp ((ungrouped_byDay_perm events).mem_iff.mpr he)
  obtain ⟨b, hb, hmem⟩ := List.mem_flatMap.mp hmem
  have hbucket := ((isDayGroup_of_mem_byDay hg).bucket b hb).1
  rw [hbucket, mem_onMonthDay] at hmem
  obtain ⟨-, hmonth, hday⟩ := hmem
  exact ⟨g, hg, b, hb, by rw [hbucket, hmonth, hday]⟩

/-- The groups give back the events exactly if these are in the order of the days of a year. -/
theorem ungrouped_byDay_eq_iff (events : List Event) : ungrouped (byDay events) = events ↔
    events.Pairwise fun e f ↦ e.monthDay ≤ f.monthDay := by
  constructor
  · intro h
    rw [← h]
    exact pairwise_ungrouped_byDay events
  · intro h
    refine eq_of_filter_key_eq (fun _ _ ↦ le_antisymm) (pairwise_ungrouped_byDay events) h
      fun k ↦ filter_ungrouped_byDay events fun e f he hf ↦ ?_
    exact (of_decide_eq_true he).trans (of_decide_eq_true hf).symm

-- Of two members of a list, one stands before the other.
private theorem related_of_pairwise {α : Type} {R : α → α → Prop} {l : List α}
    (h : l.Pairwise R) (hrefl : ∀ a, R a a) {a b : α} (ha : a ∈ l) (hb : b ∈ l) :
    R a b ∨ R b a := by
  have hsymm : Std.Symm fun a b ↦ R a b ∨ R b a := ⟨fun _ _ ↦ Or.symm⟩
  have hall : l.Pairwise fun a b ↦ R a b ∨ R b a := h.imp .inl
  exact hall.forall_of_forall (fun a _ ↦ .inl (hrefl a)) ha hb

/-- The groups of events by date give these back exactly if no earlier date has a later month and
day. -/
theorem ungrouped_byDay_eq_iff_of_sorted {events : List Event}
    (hsorted : events.Pairwise fun e f ↦ e.date ≤ f.date) :
    ungrouped (byDay events) = events ↔
      ∀ e ∈ events, ∀ f ∈ events, e.date ≤ f.date → e.monthDay ≤ f.monthDay := by
  rw [ungrouped_byDay_eq_iff]
  constructor
  · intro h e he f hf hle
    obtain hfirst | hlast := related_of_pairwise (hsorted.and h)
      (fun _ ↦ ⟨Int.le_refl _, le_refl _⟩) he hf
    · exact hfirst.2
    · -- the later date stands first only if it is the same
      have hsame : e.date = f.date := Date.ext_number (Int.le_antisymm hle hlast.1)
      rw [monthDay, month, hsame]
      exact le_refl _
  · intro h
    exact hsorted.imp_of_mem fun he hf hle ↦ h _ he _ hf hle

/-- Within a year, dates are in the order of their months and days. -/
theorem date_le_of_monthDay_le {e f : Event} (hyear : e.year = f.year)
    (h : e.monthDay ≤ f.monthDay) : e.date ≤ f.date := by
  rw [monthDay_le_iff] at h
  cases h with
  | inl hmonth => exact Int.le_of_lt (Date.lt_of_month_lt ⟨hyear, rfl⟩ ⟨rfl, rfl⟩ hmonth)
  | inr hday =>
    have hn := e.date.number_eq
    have hn' := f.date.number_eq
    simp only [year, month] at hyear hday
    rw [hyear, hday.1] at hn
    rw [Date.le_iff]
    omega

/-- The events of one year come back from the groups in their order. -/
theorem filter_year_ungrouped_byDay {events : List Event}
    (hsorted : events.Pairwise fun e f ↦ e.date ≤ f.date) (y : Int) :
    (ungrouped (byDay events)).filter (·.year = y) = events.filter (·.year = y) := by
  refine eq_of_filter_date_eq ?_ (hsorted.filter _) fun d ↦ ?_
  · rw [List.pairwise_filter]
    refine (pairwise_ungrouped_byDay events).imp fun hle he hf ↦ ?_
    exact date_le_of_monthDay_le ((of_decide_eq_true he).trans (of_decide_eq_true hf).symm) hle
  · rw [List.filter_comm, filter_date_ungrouped_byDay, List.filter_comm]

/-- Whether groups are those of events by month and day, which leave the events of each year in
their order. -/
structure AreDayGroups (events : List Event) (groups : List (Int × List (Int × List Event))) :
    Prop where
  months : groups.Pairwise fun g g' ↦ g.1 < g'.1
  group : ∀ g ∈ groups, IsDayGroup events g
  perm : (ungrouped groups).Perm events
  order : (ungrouped groups).Pairwise fun e f ↦ e.monthDay ≤ f.monthDay
  years : ∀ y, (ungrouped groups).filter (·.year = y) = events.filter (·.year = y)

private theorem areDayGroups_byDay {events : List Event}
    (hsorted : events.Pairwise fun e f ↦ e.date ≤ f.date) : AreDayGroups events (byDay events) where
  months := by
    rw [byDay_eq, List.pairwise_map]
    exact pairwise_groupBy _ (by decide) events
  group := fun _ ↦ isDayGroup_of_mem_byDay
  perm := ungrouped_byDay_perm events
  order := pairwise_ungrouped_byDay events
  years := filter_year_ungrouped_byDay hsorted

end Event

/-! ### The events of a year -/

/-- A date at most two days outside a year lies on one of the last two days of the year before it
or on one of the first two of the year after it. -/
theorem Date.year_cases {d : Date} {year : Int} (hy : 1 ≤ year ∧ year ≤ 9998)
    (hlow : daysBeforeYear year - 2 < d.number) (hhigh : d.number ≤ daysBeforeYear (year + 1) + 2) :
    d.year = year ∨ (d.year = year - 1 ∧ d.month = 12 ∧ 30 ≤ d.day) ∨
      (d.year = year + 1 ∧ d.month = 1 ∧ d.day ≤ 2) := by
  have hone := d.one_le
  by_cases hbefore : d.number ≤ daysBeforeYear year
  · have hyear : 2 ≤ year := by
      by_contra hfirst
      obtain rfl : year = 1 := by omega
      have hstart : daysBeforeYear 1 = 0 := by decide
      omega
    have hdecember := daysBefore_december (year - 1)
    rw [Int.sub_add_cancel] at hdecember
    have hin : d.InMonth (year - 1) 12 := by
      rw [Date.inMonth_iff (by omega) (by decide)]
      have hlength : lengthOfMonth (year - 1) 12 = 31 := rfl
      omega
    have hday := hin.day_eq
    exact .inr (.inl ⟨hin.1, hin.2, by omega⟩)
  by_cases hafter : daysBeforeYear (year + 1) < d.number
  · have hjanuary := daysBefore_january (year + 1)
    have hin : d.InMonth (year + 1) 1 := by
      rw [Date.inMonth_iff (by omega) (by decide)]
      have hlength : lengthOfMonth (year + 1) 1 = 31 := rfl
      omega
    have hday := hin.day_eq
    exact .inr (.inr ⟨hin.1, hin.2, by omega⟩)
  · exact .inl (Date.year_eq (by omega) (by omega))

namespace Schedule

/-- The events found for a year lie in it, but for those moved to the days around its ends. -/
theorem year_cases_of_mem_found {lines : List (RuleLine × Nat)} {year : Int}
    (hy : 1 ≤ year ∧ year ≤ 9998) {e : Event} (he : e ∈ found lines year) :
    e.year = year ∨ (e.year = year - 1 ∧ e.month = 12 ∧ 30 ≤ e.date.day) ∨
      (e.year = year + 1 ∧ e.month = 1 ∧ e.date.day ≤ 2) := by
  obtain ⟨month, hm, line, -, hon⟩ := mem_found.mp he
  obtain ⟨d, hd, rfl⟩ := List.mem_map.mp hon
  have hmonth := month_bounds hm
  have hbelongs := (Rule.regularDates_dates hy hmonth line.1.toRule).belongs d hd
  have hnumber := hbelongs.number_bounds ⟨hy.1, by omega⟩ hmonth
  have hyear := Date.daysBefore_in_year year hmonth
  apply Date.year_cases hy
  · simp only [eventOn]
    omega
  · simp only [eventOn]
    omega

/-- The days of a year on which events of a neighbouring year can stand. -/
def seamDays : List (Int × Int) := [(12, 30), (12, 31), (1, 1), (1, 2)]

/-- Events found for a year on the same day of different years stand at its ends. -/
theorem mem_seamDays_of_date_ne {lines : List (RuleLine × Nat)} {year : Int}
    (hy : 1 ≤ year ∧ year ≤ 9998) {e f : Event} (he : e ∈ found lines year)
    (hf : f ∈ found lines year) (hday : e.monthDay = f.monthDay) (hne : e.date ≠ f.date) :
    (e.month, e.date.day) ∈ seamDays := by
  rw [Event.monthDay_eq_iff] at hday
  obtain ⟨hmonth, hday⟩ := hday
  have hyears : e.year ≠ f.year := by
    intro hyear
    exact hne (Date.InMonth.eq_of_day_eq ⟨hyear, hmonth⟩ ⟨rfl, rfl⟩ hday)
  have hcases := year_cases_of_mem_found hy he
  have hcases' := year_cases_of_mem_found hy hf
  have hbounds := Event.mem_monthDays.mp e.day_mem_monthDays
  simp only [seamDays, List.mem_cons, Prod.mk.injEq, List.not_mem_nil, or_false]
  omega

/-- The events of a year in groups by month and day hold each event once, and those of one calendar
year in their order. The groups give the events back exactly if no earlier date has a later month and
day, as when all events lie in the year; and they hold events of different dates in one bucket only
on the days around the ends of a year. -/
theorem ofText_ungrouped_byDay (text : List Char) (year : Int) (hyear : 1 ≤ year ∧ year ≤ 9998) :
    ∃ s : Schedule, ofText text year = .ok s ∧
      Event.AreDayGroups s.events (Event.byDay s.events) ∧
      (Event.ungrouped (Event.byDay s.events) = s.events ↔
        ∀ e ∈ s.events, ∀ f ∈ s.events, e.date ≤ f.date → e.monthDay ≤ f.monthDay) ∧
      ((∀ e ∈ s.events, e.year = year) → Event.ungrouped (Event.byDay s.events) = s.events) ∧
      ∀ g ∈ Event.byDay s.events, ∀ b ∈ g.2, ∀ e ∈ b.2, ∀ f ∈ b.2, e.date ≠ f.date →
        (g.1, b.1) ∈ seamDays := by
  have hsorted := Event.sortByDate_sorted (found (RuleLine.parseAll text).zipIdx year)
  have hgroups := Event.areDayGroups_byDay hsorted
  refine ⟨_, ofLines_eq_ok hyear (RuleLine.parseAll text), hgroups,
    Event.ungrouped_byDay_eq_iff_of_sorted hsorted, fun hall ↦ ?_, fun g hg b hb e he f hf hne ↦ ?_⟩
  · have hyears := hgroups.years year
    rwa [List.filter_eq_self.mpr fun e he ↦ decide_eq_true (hall e he), List.filter_eq_self.mpr
      fun e he ↦ decide_eq_true (hall e (hgroups.perm.mem_iff.mp he))] at hyears
  · rw [((hgroups.group g hg).bucket b hb).1, Event.mem_onMonthDay] at he hf
    obtain ⟨hmem, hmonth, hday⟩ := he
    obtain ⟨hmem', hmonth', hday'⟩ := hf
    rw [← hmonth, ← hday]
    refine mem_seamDays_of_date_ne hyear (Event.mem_sortByDate.mp hmem)
      (Event.mem_sortByDate.mp hmem') ?_ hne
    rw [Event.monthDay_eq_iff]
    exact ⟨hmonth.trans hmonth'.symm, hday.trans hday'.symm⟩

/-- The first of 2022 is a Saturday: rent is paid on the last day of 2021, which falls into one bucket
with the last day of 2022. -/
theorem ofText_ungrouped_byDay_year_end :
    let text := "Rent - 1, if weekend then previous friday\nClose - 31".toList
    ((1 : Int) ≤ 2022 ∧ (2022 : Int) ≤ 9998) ∧ ∃ s : Schedule, ofText text 2022 = .ok s ∧
      Event.AreDayGroups s.events (Event.byDay s.events) ∧
      (Event.ungrouped (Event.byDay s.events) = s.events ↔
        ∀ e ∈ s.events, ∀ f ∈ s.events, e.date ≤ f.date → e.monthDay ≤ f.monthDay) ∧
      ((∀ e ∈ s.events, e.year = 2022) → Event.ungrouped (Event.byDay s.events) = s.events) ∧
      ∀ g ∈ Event.byDay s.events, ∀ b ∈ g.2, ∀ e ∈ b.2, ∀ f ∈ b.2, e.date ≠ f.date →
        (g.1, b.1) ∈ seamDays :=
  ⟨by decide, ofText_ungrouped_byDay _ 2022 (by decide)⟩

/-- Not all events of a year come back in their order, and not all buckets hold events of one date:
the rent of January 2022, moved to the last day of 2021, comes back after that of February and stands
beside an event of the last day of 2022. -/
theorem exists_ungrouped_byDay_ne :
    let text := "Rent - 1, if weekend then previous friday\nClose - 31".toList
    ∃ s : Schedule, ofText text 2022 = .ok s ∧
      Event.ungrouped (Event.byDay s.events) ≠ s.events ∧
      ∃ g ∈ Event.byDay s.events, ∃ b ∈ g.2, ∃ e ∈ b.2, ∃ f ∈ b.2, e.date ≠ f.date := by
  intro text
  have hfound : ∃ e ∈ found (RuleLine.parseAll text).zipIdx 2022,
      (e.month, e.date.day) = (12, 31) ∧
        (∃ f ∈ found (RuleLine.parseAll text).zipIdx 2022, e.date < f.date ∧ f.month < e.month) ∧
        ∃ h ∈ found (RuleLine.parseAll text).zipIdx 2022,
          (h.month, h.date.day) = (12, 31) ∧ e.date ≠ h.date := by
    decide +kernel
  obtain ⟨e, he, heday, ⟨f, hf, hlt, hmonth⟩, h, hh, hhday, hne⟩ := hfound
  have hsorted := Event.sortByDate_sorted (found (RuleLine.parseAll text).zipIdx 2022)
  refine ⟨_, ofLines_eq_ok (by decide) (RuleLine.parseAll text), fun heq ↦ ?_, ?_⟩
  · have hagree := (Event.ungrouped_byDay_eq_iff_of_sorted hsorted).mp heq e
      (Event.mem_sortByDate.mpr he) f (Event.mem_sortByDate.mpr hf) (Int.le_of_lt hlt)
    rw [Event.monthDay_le_iff] at hagree
    omega
  · obtain ⟨g, hg, b, hb, hbucket⟩ := Event.exists_bucket (Event.mem_sortByDate.mpr he)
    simp only [Prod.mk.injEq] at heday hhday
    refine ⟨g, hg, b, hb, e, ?_, h, ?_, hne⟩
    · rw [hbucket, Event.mem_onMonthDay]
      exact ⟨Event.mem_sortByDate.mpr he, rfl, rfl⟩
    · rw [hbucket, Event.mem_onMonthDay]
      exact ⟨Event.mem_sortByDate.mpr hh, by omega, by omega⟩

end Schedule

end RuleCalendar
