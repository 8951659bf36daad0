import RuleCalendar.Proofs.Rule.Foreign
import RuleCalendar.Proofs.YearCalendar

/-!
# Lines that are not understood

Main statement: a line whose rule text holds no digits and no words for dates has no event in any year,
and is named once among the lines that are not understood.
-/

namespace RuleCalendar.Schedule

variable {lines before after : List RuleLine} {line : RuleLine} {year : Int} {s : Schedule}

/-- An event of any year is found in one month, on one line and on one date that the line's rule has. -/
theorem exists_of_mem_discover {events : List Event} (h : discover lines year = .ok events)
    {e : Event} (he : e ∈ events) : ∃ month ∈ months, ∃ found ∈ lines.zipIdx, ∃ dates d,
      found.1.toRule.datesIn year month = .ok dates ∧ d ∈ dates ∧
        e = eventOn found.2 found.1 found.1.toRule month d := by
  rw [discover_eq] at h
  obtain ⟨byMonth, hmonths, hevents⟩ := bind_eq_ok_iff.mp h
  cases hevents
  obtain ⟨ofLine, hofLine, he⟩ := List.mem_flatten.mp he
  obtain ⟨ofMonth, hofMonth, hofLine⟩ := List.mem_flatten.mp hofLine
  obtain ⟨month, hmonth, hlines⟩ := exists_of_mem_mapM hmonths hofMonth
  obtain ⟨ruled, hruled, hdates⟩ := exists_of_mem_mapM hlines hofLine
  obtain ⟨found, hfound, rfl⟩ := List.mem_map.mp hruled
  obtain ⟨dates, hdatesIn, hmap⟩ := bind_eq_ok_iff.mp hdates
  cases hmap
  obtain ⟨d, hd, rfl⟩ := List.mem_map.mp he
  exact ⟨month, hmonth, found, hfound, dates, d, hdatesIn, hd, rfl⟩

/-- A schedule passes over a line: it has no event of the line, and names it once, in its place among the
lines that are not understood. -/
structure PassesOver (s : Schedule) (before : List RuleLine) (line : RuleLine)
    (after : List RuleLine) : Prop where
  events : ∀ e ∈ s.events, lineOf e.id ≠ before.length
  unknown : s.unknown = unknownRules before ++ ⟨line.name, line.rule⟩ :: unknownRules after

private theorem unknownRules_append (before after : List RuleLine) (hline : line.toRule = .unrecognized) :
    unknownRules (before ++ line :: after) =
      unknownRules before ++ ⟨line.name, line.rule⟩ :: unknownRules after := by
  have hunknown : (!line.toRule.isRecognized) = true := by
    rw [hline]
    rfl
  rw [unknownRules, List.filter_append, List.filter_cons, if_pos hunknown, List.map_append,
    List.map_cons]
  rfl

/-- Whatever the other lines are, a schedule passes over a line that is not understood. -/
theorem passesOver_of_unrecognized (hline : line.toRule = .unrecognized)
    (h : ofLines (before ++ line :: after) year = .ok s) : s.PassesOver before line after := by
  rw [ofLines_eq] at h
  obtain ⟨events, hevents, hs⟩ := bind_eq_ok_iff.mp h
  cases hs
  refine ⟨?_, unknownRules_append before after hline⟩
  -- An event whose id has the number of the line is found on the line, which has no dates.
  intro e he hsame
  obtain ⟨month, hmonth, found, hfound, dates, d, hdates, hd, rfl⟩ :=
    exists_of_mem_discover hevents (Event.mem_sortByDate.mp he)
  have hbounds := month_bounds hmonth
  have hday := d.day_bounds
  have hindex : found.2 = before.length := by
    rw [← hsame]
    exact (lineOf_eventId (by omega) (by omega)).symm
  have hself : found.1 = line := by
    have hat := List.mem_zipIdx_iff_getElem?.mp hfound
    rw [hindex, List.getElem?_append_right (Nat.le_refl _), Nat.sub_self] at hat
    exact (Option.some.inj hat).symm
  rw [hself, hline] at hdates
  cases hdates
  cases hd

/-- Alone, such a line has its schedule in every year, within the calendar or not. -/
theorem ofLines_unrecognized (hline : line.toRule = .unrecognized) (year : Int) :
    ofLines [line] year = .ok { events := [], unknown := [⟨line.name, line.rule⟩] } := by
  have hmonth : ∀ month ∈ months, eventsOfAll (ruled [line]) year month = .ok [[]] := by
    intro month _
    simp only [eventsOfAll, ruled, List.zipIdx_cons, List.zipIdx_nil, List.map_cons, List.map_nil,
      hline]
    rfl
  have hunknown : unknownRules [line] = [⟨line.name, line.rule⟩] :=
    unknownRules_append [] [] hline
  have hnone : (months.map fun _ ↦ [([] : List Event)]).flatten.flatten = [] := rfl
  have hsorted : Event.sortByDate [] = [] := Event.sortByDate_of_sorted .nil
  have hdiscover : discover [line] year = .ok [] := by
    rw [discover_eq, mapM_eq_ok hmonth, ok_bind, hnone]
    rfl
  rw [ofLines_eq, hdiscover, ok_bind, hsorted, hunknown]
  rfl

/-- A text without words for dates is not understood. A line with such a rule text has no event and is
named once, beside whatever lines the rules text has before and after it, and told of in one warning;
alone, it has a schedule in every year, and with others in the years before the last one of the
calendar. -/
theorem ofText_foreign {t : List Char} (h : Vocabulary.IsForeign (Text.normalForm t)) :
    Rule.ofText t = .unrecognized ∧
      ∀ (text : List Char) (before after : List RuleLine) (line : RuleLine),
        RuleLine.parseAll text = before ++ line :: after → line.rule.toList = t →
          ∀ year : Int,
            (∀ s, ofText text year = .ok s → s.PassesOver before line after ∧
              let calendar : YearCalendar := { year, lines := RuleLine.parseAll text, schedule := s }
              calendar.logLines.filter (fun l ↦ l.level = .warning) =
                s.unknown.map YearCalendar.warningOn) ∧
            (1 ≤ year ∧ year ≤ 9998 → ∃ s, ofText text year = .ok s) ∧
            (before = [] ∧ after = [] →
              ofText text year = .ok { events := [], unknown := [⟨line.name, line.rule⟩] }) := by
  have hrule := h.ofText_eq rfl
  refine ⟨hrule, ?_⟩
  rintro text before after line hlines rfl year
  rw [ofText, hlines]
  refine ⟨fun s hs ↦ ⟨passesOver_of_unrecognized hrule hs, YearCalendar.filter_logLines _⟩,
    fun hyear ↦ ⟨_, ofLines_eq_ok hyear _⟩, ?_⟩
  rintro ⟨rfl, rfl⟩
  exact ofLines_unrecognized hrule year

/-- Words for dates that are only parts of longer words do not count. -/
theorem ofText_foreign_everyday :
    let t := "Everyday, on Mondayish afternoons".toList
    let text := "Tea - Everyday, on Mondayish afternoons".toList
    let line : RuleLine := RuleLine.parse text
    Vocabulary.IsForeign (Text.normalForm t) ∧ Rule.ofText t = .unrecognized ∧
      ∀ year : Int, ∃ s, ofText text year = .ok s ∧
        s = { events := [], unknown := [⟨line.name, line.rule⟩] } ∧
        let calendar : YearCalendar := { year, lines := [line], schedule := s }
        calendar.logLines.filter (fun l ↦ l.level = .warning) =
          [⟨.warning, "prodcal.assembler",
            "unrecognized rule for 'Tea': 'Everyday, on Mondayish afternoons'"⟩] := by
  intro t text line
  have hforeign : Vocabulary.IsForeign (Text.normalForm t) := by decide +kernel
  have hlines : RuleLine.parseAll text = [line] := by decide +kernel
  have hrule : line.rule.toList = t := by decide +kernel
  have hwarning : YearCalendar.warningOn ⟨line.name, line.rule⟩ = ⟨.warning, "prodcal.assembler",
      "unrecognized rule for 'Tea': 'Everyday, on Mondayish afternoons'"⟩ := by
    decide +kernel
  obtain ⟨hunrecognized, hschedule⟩ := ofText_foreign hforeign
  refine ⟨hforeign, hunrecognized, fun year ↦ ?_⟩
  obtain ⟨htold, -, halone⟩ := hschedule text [] [] line hlines hrule year
  have hs := halone ⟨rfl, rfl⟩
  obtain ⟨-, hwarnings⟩ := htold _ hs
  rw [hlines] at hwarnings
  refine ⟨_, hs, rfl, hwarnings.trans ?_⟩
  rw [List.map_singleton, hwarning]

end RuleCalendar.Schedule
