import RuleCalendar.Proofs.Rule.WrittenDate
import RuleCalendar.Proofs.Schedule.Recurring

/-!
# Lines with a written date

Main statement: a line with a date in digits has its only event on this date, in the year of the
date and in no other; a line with a named month and day has one event on this day of every year that
has it, however its letters are capitalized.
-/

namespace RuleCalendar

variable {year : Int}

/-! ### Rules for one day -/

namespace Rule

/-- Whether a rule is for a day of one month and for no shift. -/
structure OnOneDay (r : Rule) (month day : Int) : Prop where
  family : r.family = .singleDate
  anchor : r.anchor = some .day
  day : r.day = some day
  months : r.months = [month]
  shift : r.shift = .none

variable {r : Rule} {month day : Int}

private theorem OnOneDay.coversMonth_iff (h : r.OnOneDay month day) {month' : Int} :
    r.coversMonth year month' = true ↔ month' = month ∧ ∀ only ∈ r.year, only = year := by
  rw [Rule.coversMonth_iff, LeavesOut, h.months]
  simp

/-- A rule for one day has in a year the date with this day and month, unless it is for another
year. -/
theorem OnOneDay.ascending_dates (h : r.OnOneDay month day) (hy : 1 ≤ year ∧ year ≤ 9998) :
    AscendingListOf (Schedule.months.flatMap (r.dates year)) fun d ↦
      d.year = year ∧ d.month = month ∧ d.day = day ∧ ∀ only ∈ r.year, only = year := by
  refine .flatMap (by decide) (fun m ↦ ⟨Schedule.month_bounds, fun hm ↦ ?_⟩) fun m hm ↦ ?_
  · simp [Schedule.months]
    omega
  · have hanchored : r.family.isAnchored = true := by
      rw [h.family]
      rfl
    obtain ⟨ds, hds, hasc⟩ := anchoredDates_ok (r := r) ⟨hy.1, by omega⟩
      (Schedule.month_bounds hm) hy.2 fun _ ↦ h.shift
    rw [dates_of_isAnchored hanchored hds]
    split
    · next hcovers =>
      obtain ⟨rfl, honly⟩ := h.coversMonth_iff.mp hcovers
      refine hasc.congr fun d ↦ and_congr_right fun hd ↦ ?_
      simp only [AtAnchor, h.anchor, h.day, Option.getD_some, Option.some.injEq]
      exact ⟨fun hday ↦ ⟨hd.2, hday.symm, honly⟩, fun hday ↦ hday.2.1.symm⟩
    · next hout =>
      refine .nil fun d hd ↦ hout (h.coversMonth_iff.mpr ⟨?_, hd.2.2.2⟩)
      exact hd.1.2.symm.trans hd.2.1

end Rule

namespace Date

variable (d : Date)

private theorem onOneDay_rule (pattern : String) : (d.rule pattern).OnOneDay d.month d.day :=
  ⟨rfl, rfl, rfl, rfl, rfl⟩

/-- A day and a month that one year has are missing from another only on a leap day. -/
theorem exists_inMonth (hy : 1 ≤ year ∧ year ≤ 9999)
    (h : ¬(d.month = 2 ∧ d.day = 29 ∧ isLeap year = false)) :
    ∃ e : Date, e.InMonth year d.month ∧ e.day = d.day := by
  have hday := d.day_bounds
  have hlength : d.day ≤ lengthOfMonth year d.month := by
    simp only [lengthOfMonth, monthLength] at hday ⊢
    split at hday
    · next hmonth =>
      rw [if_pos hmonth]
      cases hleap : isLeap year with
      | true => split at hday <;> simp <;> omega
      | false =>
        have hnot : d.day ≠ 29 := fun h29 ↦ h ⟨hmonth, h29, hleap⟩
        split at hday <;> simp <;> omega
    · next hmonth =>
      rw [if_neg hmonth]
      exact hday.2
  obtain ⟨e, he, -⟩ := Date.of_eq_ok hy d.month_bounds ⟨hday.1, hlength⟩
  obtain ⟨hyear, hmonth, heday⟩ := Date.fields_of he
  exact ⟨e, ⟨hyear, hmonth⟩, heday⟩

/-- A year that is not a leap year has no leap day. -/
theorem isLeap_of_leapDay {e : Date} (hmonth : e.month = 2) (hday : e.day = 29) :
    isLeap e.year = true := by
  have hbounds := e.day_bounds
  rw [hmonth, hday, lengthOfMonth, monthLength, if_pos rfl] at hbounds
  by_contra hleap
  rw [if_neg hleap] at hbounds
  exact absurd hbounds.2 (by decide)

end Date

/-! ### Lines -/

namespace Schedule

/-- The dates of the events of a single line are those of its rule in the year. -/
theorem ofLines_single (line : RuleLine) (hyear : 1 ≤ year ∧ year ≤ 9998) {p : Date → Prop}
    (h : AscendingListOf (months.flatMap (line.toRule.dates year)) p) :
    ∃ s : Schedule, ofLines [line] year = .ok s ∧
      AscendingListOf (s.events.map Event.date) p := by
  rw [← map_date_found line year] at h
  have hsorted : (found [line].zipIdx year).Pairwise fun e f ↦ e.date ≤ f.date :=
    (List.pairwise_map.mp h.ascending).imp Int.le_of_lt
  refine ⟨_, ofLines_eq_ok hyear [line], ?_⟩
  rwa [Event.sortByDate_of_sorted hsorted]

/-- The dates of the events of a text with one line are those of the rule on the line. -/
theorem ofText_single {name t : List Char} (hname : RuleLine.IsName name)
    (ht : RuleLine.IsPart t) (hyear : 1 ≤ year ∧ year ≤ 9998) {p : Date → Prop}
    (h : AscendingListOf (months.flatMap ((Rule.ofText t).dates year)) p) :
    ∃ s : Schedule, ofText (name ++ RuleLine.separator ++ t) year = .ok s ∧
      AscendingListOf (s.events.map Event.date) p := by
  rw [ofText, RuleLine.parseAll_append hname ht]
  apply ofLines_single _ hyear
  rwa [RuleLine.toRule, RuleLine.named, String.toList_ofList]

/-- A date in digits on a line is the date of its only event in the year of the date; in other years
there is none. -/
theorem ofText_rule (d : Date) {name t : List Char} (hname : RuleLine.IsName name)
    (ht : RuleLine.IsPart t) {pattern : String} (hrule : Rule.ofText t = d.rule pattern)
    (hyear : 1 ≤ year ∧ year ≤ 9998) : ∃ s : Schedule,
      ofText (name ++ RuleLine.separator ++ t) year = .ok s ∧
        s.events.map Event.date = if year = d.year then [d] else [] := by
  have hdates := (d.onOneDay_rule pattern).ascending_dates hyear
  rw [← hrule] at hdates
  obtain ⟨s, hs, hasc⟩ := ofText_single hname ht hyear hdates
  have honly : ∀ only, only ∈ (Rule.ofText t).year ↔ only = d.year := by
    intro only
    rw [hrule]
    exact Option.mem_some.trans eq_comm
  refine ⟨s, hs, hasc.eq ?_⟩
  split
  · next hsame =>
    refine .singleton fun e ↦ ⟨?_, fun he ↦ ?_⟩
    · rintro rfl
      exact ⟨hsame.symm, rfl, rfl, fun only h ↦ ((honly only).mp h).trans hsame.symm⟩
    · exact Date.InMonth.eq_of_day_eq ⟨he.1, he.2.1⟩ ⟨hsame.symm, rfl⟩ he.2.2.1
  · next hother =>
    refine .nil fun e he ↦ hother ?_
    exact (he.2.2.2 d.year ((honly _).mpr rfl)).symm

/-- A day and a month in words on a line are those of its only event of a year; there is none where
they are a leap day and the year is not a leap year. -/
theorem ofText_spelling {d : Date} {name t : List Char} (hname : RuleLine.IsName name)
    (ht : t.map Char.toLower ∈ d.spellings) (hyear : 1 ≤ year ∧ year ≤ 9998) : ∃ s : Schedule,
      ofText (name ++ RuleLine.separator ++ t) year = .ok s ∧
        if d.month = 2 ∧ d.day = 29 ∧ isLeap year = false then s.events = []
        else ∃ e : Date, e.InMonth year d.month ∧ e.day = d.day ∧
          s.events.map Event.date = [e] := by
  have hrule := Date.ofText_of_spelling ht
  have honeDay : (Rule.ofText t).OnOneDay d.month d.day := by
    rw [hrule]
    exact ⟨rfl, rfl, rfl, rfl, rfl⟩
  have hall : ∀ only ∈ (Rule.ofText t).year, only = year := by
    rw [hrule]
    nofun
  obtain ⟨s, hs, hasc⟩ := ofText_single hname (Date.normalForm_of_spelling ht).1 hyear
    (honeDay.ascending_dates hyear)
  refine ⟨s, hs, ?_⟩
  split
  · next hleap =>
    obtain ⟨hmonth, hday, hnot⟩ := hleap
    have hnone : s.events.map Event.date = [] := by
      refine hasc.eq (.nil fun e he ↦ ?_)
      obtain ⟨rfl, hmonth', hday', -⟩ := he
      rw [Date.isLeap_of_leapDay (hmonth'.trans hmonth) (hday'.trans hday)] at hnot
      cases hnot
    exact List.map_eq_nil_iff.mp hnone
  · next hexists =>
    obtain ⟨e, hin, heday⟩ := d.exists_inMonth ⟨hyear.1, by omega⟩ hexists
    refine ⟨e, hin, heday, hasc.eq (.singleton fun e' ↦ ⟨?_, fun he ↦ ?_⟩)⟩
    · rintro rfl
      exact ⟨hin.1, hin.2, heday, hall⟩
    · exact Date.InMonth.eq_of_day_eq ⟨he.1, he.2.1⟩ hin (he.2.2.1.trans heday.symm)

/-- A date in digits on a line is the date of the only event of the line in the year of the date; it
has none in other years. The month and day of a date in words, its letters in either case, are those
of the only event in any year; there is none where they are a leap day and the year is not a leap
year. -/
theorem ofText_writtenDate (d : Date) (name : List Char) (hname : RuleLine.IsName name)
    (year : Int) (hyear : 1 ≤ year ∧ year ≤ 9998) :
    (∀ t ∈ [d.iso.toList, d.slashed.toList], ∃ s : Schedule,
      ofText (name ++ RuleLine.separator ++ t) year = .ok s ∧
        s.events.map Event.date = if year = d.year then [d] else []) ∧
      ∀ t, t.map Char.toLower ∈ d.spellings → ∃ s : Schedule,
        ofText (name ++ RuleLine.separator ++ t) year = .ok s ∧
          if d.month = 2 ∧ d.day = 29 ∧ isLeap year = false then s.events = []
          else ∃ e : Date, e.InMonth year d.month ∧ e.day = d.day ∧
            s.events.map Event.date = [e] := by
  constructor
  · rw [List.forall_mem_cons, List.forall_mem_singleton]
    constructor
    · exact ofText_rule d hname d.normalForm_iso.1 d.ofText_iso hyear
    · exact ofText_rule d hname d.normalForm_slashed.1 d.ofText_slashed hyear
  · intro t ht
    exact ofText_spelling hname ht hyear

/-- 29 February 2024 has one event in 2024, and as a day of every year also in 2028. -/
theorem ofText_writtenDate_leapDay :
    let d : Date := ⟨738945, by decide, by decide⟩
    let name := "Leap day".toList
    (RuleLine.IsName name ∧ (1 : Int) ≤ 2028 ∧ (2028 : Int) ≤ 9998) ∧
      (d.iso = "2024-02-29" ∧ "29TH of February".toList.map Char.toLower ∈ d.spellings) ∧
      (∀ t ∈ [d.iso.toList, d.slashed.toList], ∃ s : Schedule,
        ofText (name ++ RuleLine.separator ++ t) 2028 = .ok s ∧
          s.events.map Event.date = if 2028 = d.year then [d] else []) ∧
      ∀ t, t.map Char.toLower ∈ d.spellings → ∃ s : Schedule,
        ofText (name ++ RuleLine.separator ++ t) 2028 = .ok s ∧
          if d.month = 2 ∧ d.day = 29 ∧ isLeap 2028 = false then s.events = []
          else ∃ e : Date, e.InMonth 2028 d.month ∧ e.day = d.day ∧
            s.events.map Event.date = [e] := by
  intro d name
  have hname : RuleLine.IsName name :=
    ⟨⟨by decide, by decide, by decide, by decide⟩, by decide, by decide⟩
  exact ⟨⟨hname, by decide⟩, by decide +kernel, ofText_writtenDate d name hname 2028 (by decide)⟩

end Schedule

end RuleCalendar
