import RuleCalendar.Proofs.YearCalendar

/-!
# Lines that are not understood are named

A line is visited twelve times in a year, and told of once if it is not understood. Main statement:
the warnings of a year are those of the lines that are not understood, one for each, in the order of
the lines; the summary names the same lines; and the events of the year lie on the other lines.
-/

namespace RuleCalendar.Schedule

variable {lines : List RuleLine} {year : Int}

private theorem mem_ruled {l : Nat × RuleLine × Rule} :
    l ∈ ruled lines ↔ lines[l.1]? = some l.2.1 ∧ l.2.2 = l.2.1.toRule := by
  rw [ruled, List.mem_map]
  constructor
  · rintro ⟨k, hk, rfl⟩
    exact ⟨List.mem_zipIdx_iff_getElem?.mp hk, rfl⟩
  · rintro ⟨hget, hrule⟩
    exact ⟨(l.2.1, l.1), List.mem_zipIdx_iff_getElem?.mpr hget, by rw [← hrule]⟩

/-- The events of a year lie on lines that are understood. -/
theorem family_ne_of_mem_found {e : Event} (h : e ∈ found lines.zipIdx year) :
    ∃ line, lines[lineOf e.id]? = some line ∧ line.toRule.family ≠ .unrecognized := by
  obtain ⟨month, hm, line, hline, he⟩ := mem_found.mp h
  refine ⟨line.1, ?_, ?_⟩
  · rw [(place_of_mem_eventsOn hm he).2]
    exact List.mem_zipIdx_iff_getElem?.mp hline
  · intro hfamily
    obtain ⟨d, hd, -⟩ := List.mem_map.mp he
    simp [Rule.dates, Rule.datesIn, hfamily, pure, Except.pure] at hd

/-- A schedule names lines by their places in the rules text: all that are not understood, each once
and in their order, while its events lie on other lines. -/
structure NamesUnknown (s : Schedule) (lines : List RuleLine) (places : List Nat) : Prop where
  ascending : places.Pairwise (· < ·)
  mem_iff : ∀ i, i ∈ places ↔ ∃ line, lines[i]? = some line ∧ line.toRule.family = .unrecognized
  unknown : s.unknown.map some = places.map fun i ↦ lines[i]?.map fun line ↦ ⟨line.name, line.rule⟩
  events : ∀ e ∈ s.events, lineOf e.id < lines.length ∧ lineOf e.id ∉ places

/-- The lines that a search names are those at the places of the lines that are not understood. -/
theorem map_unknownRules (lines : List RuleLine) :
    (unknownRules lines).map some = ((unknownLines lines).map (·.1)).map fun i ↦
      lines[i]?.map fun line ↦ (⟨line.name, line.rule⟩ : UnknownRule) := by
  rw [← map_unknownLines, List.map_map, List.map_map]
  apply List.map_congr_left
  intro l hl
  have hget := (mem_ruled.mp (List.mem_filter.mp hl).1).1
  simp [hget]

private theorem mem_places_iff (i : Nat) :
    i ∈ (unknownLines lines).map (·.1) ↔
      ∃ line, lines[i]? = some line ∧ line.toRule.family = .unrecognized := by
  simp only [unknownLines, List.mem_map, List.mem_filter, mem_ruled]
  constructor
  · rintro ⟨l, ⟨⟨hget, hrule⟩, hunknown⟩, rfl⟩
    exact ⟨l.2.1, hget, by simpa [Rule.isRecognized, hrule] using hunknown⟩
  · rintro ⟨line, hget, hunknown⟩
    exact ⟨(i, line, line.toRule), ⟨⟨hget, rfl⟩, by simp [Rule.isRecognized, hunknown]⟩, rfl⟩

private theorem pairwise_places (lines : List RuleLine) :
    ((unknownLines lines).map (·.1)).Pairwise (· < ·) := by
  have hplaces : ((ruled lines).map (·.1)).Pairwise (· < ·) := by
    rw [map_fst_ruled]
    exact List.pairwise_lt_range'
  exact hplaces.sublist (List.filter_sublist.map _)

/-- Before the last year of the calendar, the warnings of a year are those of the lines that are not
understood, one for each and in their order, each with the name and the rule of its line; the summary
has the names of the same lines, and no event lies on one of them. -/
theorem ofLines_namesUnknown (lines : List RuleLine) (year : Int)
    (hyear : 1 ≤ year ∧ year ≤ 9998) :
    ∃ (s : Schedule) (places : List Nat), ofLines lines year = .ok s ∧
      s.NamesUnknown lines places ∧
      let calendar : YearCalendar := { year, lines, schedule := s }
      calendar.logLines.filter (fun l ↦ l.level = .warning) =
          s.unknown.map (fun u ↦ ⟨.warning, "prodcal.assembler",
            "unrecognized rule for " ++ String.ofList (Text.quoted u.name.toList) ++ ": " ++
              String.ofList (Text.quoted u.rule.toList)⟩) ∧
        calendar.notUnderstood = s.unknown.map (·.name) := by
  refine ⟨_, _, ofLines_eq_ok hyear lines,
    ⟨pairwise_places lines, mem_places_iff, map_unknownRules lines, ?_⟩, ?_, ?_⟩
  · intro e he
    obtain ⟨line, hget, hfamily⟩ := family_ne_of_mem_found (Event.mem_sortByDate.mp he)
    refine ⟨(List.getElem?_eq_some_iff.mp hget).1, fun hmem ↦ ?_⟩
    obtain ⟨line', hget', hunknown⟩ := (mem_places_iff _).mp hmem
    cases hget.symm.trans hget'
    exact hfamily hunknown
  · exact YearCalendar.filter_logLines _
  · simp [YearCalendar.notUnderstood, unknownRules]

/-- The same line twice, a line without a rule, and a day that the year does not have. -/
theorem ofLines_namesUnknown_repeated :
    let lines : List RuleLine :=
      [{ name := "Tea", rule := "now and then" }, { name := "Leap", rule := "29 february" },
        { name := "Tea", rule := "now and then" }, { name := "Standup" }]
    ((1 : Int) ≤ 2023 ∧ (2023 : Int) ≤ 9998) ∧
      ∃ s : Schedule, ofLines lines 2023 = .ok s ∧ s.NamesUnknown lines [0, 2, 3] ∧
        let calendar : YearCalendar := { year := 2023, lines, schedule := s }
        calendar.logLines.filter (fun l ↦ l.level = .warning) =
            [⟨.warning, "prodcal.assembler", "unrecognized rule for 'Tea': 'now and then'"⟩,
              ⟨.warning, "prodcal.assembler", "unrecognized rule for 'Tea': 'now and then'"⟩,
              ⟨.warning, "prodcal.assembler", "unrecognized rule for 'Standup': ''"⟩] ∧
          calendar.notUnderstood = ["Tea", "Tea", "Standup"] := by
  intro lines
  obtain ⟨s, places, hs, hnames, hwarnings, hsummary⟩ := ofLines_namesUnknown lines 2023 (by decide)
  have hrules : lines.map (·.toRule.family) =
      [.unrecognized, .singleDate, .unrecognized, .unrecognized] := by
    decide +kernel
  have hplaces : places = [0, 2, 3] := by
    refine hnames.ascending.eq_of_mem_iff (by decide) fun i ↦ (hnames.mem_iff i).trans ?_
    have hget : (∃ line, lines[i]? = some line ∧ line.toRule.family = .unrecognized) ↔
        (lines.map (·.toRule.family))[i]? = some .unrecognized := by
      simp
    rw [hget, hrules]
    match i with
    | 0 | 1 | 2 | 3 => decide
    | i + 4 => simp
  subst hplaces
  have hunknown : s.unknown =
      [⟨"Tea", "now and then"⟩, ⟨"Tea", "now and then"⟩, ⟨"Standup", ""⟩] :=
    List.map_injective_iff.mpr (Option.some_injective _) hnames.unknown
  rw [hunknown] at hwarnings hsummary
  exact ⟨by decide, s, hs, hnames, hwarnings.trans (by decide +kernel), hsummary⟩

end RuleCalendar.Schedule
