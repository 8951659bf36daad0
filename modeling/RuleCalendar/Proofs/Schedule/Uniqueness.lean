import RuleCalendar.Proofs.Export.Uid
import RuleCalendar.Proofs.Schedule.Discovery

/-!
# Events are told apart

An id tells the day only where a line can have several dates in a month, and these are distinct days
of the month in which they are found. Main statement: the events of a year have distinct ids, and
the calendar made of them has one identifying line for each event, no two with the same value.
-/

namespace RuleCalendar

namespace Schedule

/-- Whether two events have different ids. -/
def IdsDiffer (e f : Event) : Prop := e.id ≠ f.id

section

variable {year : Int} (hy : 1 ≤ year ∧ year ≤ 9998)

include hy

/-- The events of one line in one month have different ids: there is one, or they tell their days,
which are different days of the month. -/
theorem idsDiffer_eventsOn {month : Int} (hm : month ∈ months) (line : RuleLine × Nat) :
    (eventsOn line year month).Pairwise IdsDiffer := by
  have hmonth := month_bounds hm
  refine pairwise_eventsOn hy hm line fun hmulti d d' hd hd' hlt hid ↦ ?_
  have hday := d.day_bounds
  have hday' := d'.day_bounds
  obtain ⟨-, -, -, hsame⟩ := eventId_inj (by omega) (by omega) (by omega) (by omega) hid
  have heq := hd.eq_of_day_eq hd' (hsame hmulti)
  rw [heq] at hlt
  exact Int.lt_irrefl _ hlt

omit hy in
/-- Events found one before the other have different ids. -/
theorem idsDiffer_of_foundBefore {e f : Event} (h : FoundBefore e f) : IdsDiffer e f := by
  intro hid
  rw [FoundBefore, hid] at h
  omega

/-- The events of a year have different ids. -/
theorem idsDiffer_sortByDate (lines : List RuleLine) :
    (Event.sortByDate (found lines.zipIdx year)).Pairwise IdsDiffer := by
  have hfound : (found lines.zipIdx year).Pairwise IdsDiffer :=
    pairwise_found lines (fun month hm line ↦ idsDiffer_eventsOn hy hm line)
      fun _ _ ↦ idsDiffer_of_foundBefore
  exact hfound.perm (Event.sortByDate_perm _).symm fun hne heq ↦ hne heq.symm

/-- The events of a year leave room in the calendar for the days after them. -/
theorem number_lt_of_mem_found {lines : List (RuleLine × Nat)} {e : Event}
    (h : e ∈ found lines year) : e.date.number < 3652059 := by
  obtain ⟨month, hm, line, -, he⟩ := mem_found.1 h
  obtain ⟨d, hd, rfl⟩ := List.mem_map.1 he
  have hmonth := month_bounds hm
  have hbelongs := (Rule.regularDates_dates hy hmonth line.1.toRule).belongs d hd
  have hyear : 1 ≤ year ∧ year ≤ 9999 := ⟨hy.1, by omega⟩
  have hle := (hbelongs.number_bounds hyear hmonth).2
  have hroom := Date.daysBefore_le hyear hmonth hy.2
  simp only [eventOn]
  omega

omit hy in
/-- The events of a year have distinct ids, and a calendar made of them, with whatever options, has
a UID for each of them, all distinct. -/
theorem ofLines_ids_nodup (lines : List RuleLine) (hyear : 1 ≤ year ∧ year ≤ 9998) :
    ∃ s : Schedule, ofLines lines year = .ok s ∧ (s.events.map Event.id).Nodup ∧
      ∀ options : ICalendar.Options, ∃ content,
        ICalendar.contentLines options year s.events = .ok content ∧
        content.filterMap ICalendar.uidOf? =
          s.events.map (ICalendar.uid options.uidDomain) ∧
        (content.filterMap ICalendar.uidOf?).Nodup := by
  have hdiffer := idsDiffer_sortByDate hyear lines
  refine ⟨_, ofLines_eq_ok hyear lines, List.pairwise_map.2 hdiffer, fun options ↦ ?_⟩
  obtain ⟨content, hcontent, huids⟩ := ICalendar.filterMap_uidOf?_contentLines options year
    fun e he ↦ number_lt_of_mem_found hyear (Event.mem_sortByDate.1 he)
  refine ⟨content, hcontent, huids, ?_⟩
  rw [huids]
  exact List.pairwise_map.2 (hdiffer.imp fun hne huid ↦ hne (ICalendar.id_eq_of_uid_eq huid))

omit hy in
/-- The same line twice, once a day. -/
theorem ofLines_ids_nodup_twice :
    let lines : List RuleLine :=
      [{ name := "Standup", rule := "daily" }, { name := "Standup", rule := "daily" }]
    ((1 : Int) ≤ 2024 ∧ (2024 : Int) ≤ 9998) ∧
      ∃ s : Schedule, ofLines lines 2024 = .ok s ∧ (s.events.map Event.id).Nodup ∧
        ∀ options : ICalendar.Options, ∃ content,
          ICalendar.contentLines options 2024 s.events = .ok content ∧
          content.filterMap ICalendar.uidOf? =
            s.events.map (ICalendar.uid options.uidDomain) ∧
          (content.filterMap ICalendar.uidOf?).Nodup :=
  ⟨by decide, ofLines_ids_nodup _ (by decide)⟩

end

end Schedule

end RuleCalendar
