import RuleCalendar.Proofs.Rule.SingleDate

/-!
# What a weekend clause changes

Main statement: a clause that asks to move a date off a weekend changes nothing of a rule with its
date on a day number but the shift. Rules that recur by month take the shift of every clause. Single
dates take the Friday before and the Monday after, as far as their matcher looks for a shift; the
clause for the next working day hands them to the entry for working days.
-/

namespace RuleCalendar

variable {shift : Shift} {s s' : List Char} {r r' : Rule}

/-- What the clause for a shift makes of a rule without a shift that has its date on a day
number. -/
structure ClauseEffect (shift : Shift) (s : List Char) (r r' : Rule) : Prop where
  /-- Only rules that recur by month and single dates have their date on a day number. -/
  family : r.family ∈ [.monthly, .quarterly, .semiannual, .annual, .singleDate]
  /-- A rule that recurs takes the shift and keeps all else. -/
  recurring : r.family ≠ .singleDate → r' = { r with shift := shift }
  /-- A single date keeps all but the shift. -/
  singleDate : r.family = .singleDate → shift ≠ .nextWorkingDay → SingleDateEffect shift s r r'

/-! ### Places -/

private theorem Reading.workingDay?_ne_day {day : Int} : Reading.workingDay? s ≠ some (.day day shift) := by
  rw [Reading.workingDay?]
  split
  · simp
  · split
    · simp
    · split
      · simp
      · split
        · simp
        · split <;> simp

/-- When the date of a month is on a day number. -/
theorem Reading.place_eq_day_iff {dayOf : List Char → Option Int} {day : Int} :
    Reading.place dayOf s = .day day shift ↔
      (Reading.workingDay? s).filter (· ≠ .everyWorkingDay) = none ∧
        Reading.ordinalWeekday? s = none ∧ Vocabulary.lastDay.occursIn s = false ∧
        (dayOf s).getD 1 = day ∧ Reading.shift s = shift := by
  rw [Reading.place]
  cases hworking : (Reading.workingDay? s).filter (· ≠ .everyWorkingDay) with
  | some found =>
    have hfound : Reading.workingDay? s = some found := (Option.filter_eq_some_iff.mp hworking).1
    have hne : found ≠ .day day shift := by
      rintro rfl
      exact Reading.workingDay?_ne_day hfound
    simpa using hne
  | none =>
    cases Reading.ordinalWeekday? s with
    | some pair => simp
    | none => cases Vocabulary.lastDay.occursIn s <;> simp

/-- A clause changes nothing of a day number but the shift. -/
theorem Rule.at_place_eq (h : WithClause shift s s') {dayOf : List Char → Option Int}
    (hday : dayOf s' = dayOf s) (hanchor : (r.at (Reading.place dayOf s)).anchor = some .day)
    (hshift : (r.at (Reading.place dayOf s)).shift = .none) :
    r.at (Reading.place dayOf s') = { r.at (Reading.place dayOf s) with shift := shift } := by
  cases hplace : Reading.place dayOf s with
  | day day own =>
    rw [hplace] at hshift
    obtain rfl : own = .none := hshift
    obtain ⟨hworking, hordinal, hlast, hnumber, hown⟩ := Reading.place_eq_day_iff.mp hplace
    have hplace' : Reading.place dayOf s' = .day day shift := by
      rw [Reading.place_eq_day_iff, h.workingDay?_eq, h.ordinalWeekday?_eq,
        h.occursIn_eq (by simp [Vocabulary.beyondWeekends]), hday, h.shift_eq hown]
      exact ⟨hworking, hordinal, hlast, hnumber, rfl⟩
    rw [hplace']
    rfl
  | firstWorkingDay | lastWorkingDay | nthWorkingDay | everyWorkingDay | ordinalWeekday | lastDay =>
    rw [hplace] at hanchor
    cases hanchor

/-! ### The table -/

/-- The entries before those for working days and single dates. -/
def recurringEntries : List RuleEntry := ruleTable.take 10

private theorem applies_eq (h : WithClause shift s s') {entry : RuleEntry}
    (hentry : entry ∈ recurringEntries) : entry.applies s' = entry.applies s := by
  simp only [recurringEntries, ruleTable, List.take, List.mem_cons, List.not_mem_nil,
    or_false] at hentry
  rcases hentry with rfl | rfl | rfl | rfl | rfl | rfl | rfl | rfl | rfl | rfl <;>
    exact h.occursIn_eq (by simp [Vocabulary.beyondWeekends])

/-- What the last two entries make of a text in its normal form. -/
def Rule.ofLastEntries (s : List Char) : Rule :=
  if Vocabulary.businessDay.occursIn s then RuleEntry.businessDay.rule s
  else if s.isEmpty then .unrecognized
  else Rule.ofSingleDate s

private theorem Rule.ofText_eq (t : List Char) :
    Rule.ofText t = ((recurringEntries.find? (·.applies (Text.normalForm t))).map
      (·.rule (Text.normalForm t))).getD (Rule.ofLastEntries (Text.normalForm t)) := by
  have htable : ruleTable = recurringEntries ++ [.businessDay, .singleDate] := rfl
  simp only [Rule.ofText, htable, List.find?_append, Rule.ofLastEntries]
  generalize Text.normalForm t = s
  cases recurringEntries.find? (·.applies s) with
  | some entry => rfl
  | none =>
    rw [Option.none_or, List.find?_cons, List.find?_cons]
    simp only [RuleEntry.businessDay, RuleEntry.singleDate]
    cases Vocabulary.businessDay.occursIn s <;> cases s.isEmpty <;> rfl

/-! ### Clauses -/

private theorem effect_of_recurring
    (hfamily : r.family ∈ [.monthly, .quarterly, .semiannual, .annual])
    (hr' : r' = { r with shift := shift }) : ClauseEffect shift s r r' where
  family := (by decide : [Family.monthly, .quarterly, .semiannual, .annual] ⊆ _) hfamily
  recurring _ := hr'
  singleDate hsingle := by
    rw [hsingle] at hfamily
    exact absurd hfamily (by decide)

-- What a clause makes of a rule that one of the first ten entries reads from a text.
private theorem effect_of_recurringEntries (h : WithClause shift s s') {entry : RuleEntry}
    (hentry : entry ∈ recurringEntries) (hanchor : (entry.rule s).anchor = some .day)
    (hshift : (entry.rule s).shift = .none) :
    ClauseEffect shift s (entry.rule s) (entry.rule s') := by
  simp only [recurringEntries, ruleTable, List.take, List.mem_cons, List.not_mem_nil,
    or_false] at hentry
  rcases hentry with rfl | rfl | rfl | rfl | rfl | rfl | rfl | rfl | rfl | rfl
  · cases hanchor
  · cases hanchor
  · exact effect_of_recurring (by simp [RuleEntry.monthly])
      (Rule.at_place_eq h h.day?_eq hanchor hshift)
  · cases hanchor
  · cases hanchor
  · exact effect_of_recurring (by simp [RuleEntry.quarterly])
      (Rule.at_place_eq h h.day?_eq hanchor hshift)
  · exact effect_of_recurring (by simp [RuleEntry.semiannual])
      (Rule.at_place_eq h h.day?_eq hanchor hshift)
  · refine effect_of_recurring (by simp [RuleEntry.annual]) ?_
    simp only [RuleEntry.annual, h.month?_eq]
    exact Rule.at_place_eq h h.monthDay?_eq hanchor hshift
  · cases hanchor
  · simp only [RuleEntry.ordinalWeekday] at hanchor
    split at hanchor <;> cases hanchor

private theorem anchor_businessDay_ne_day : (RuleEntry.businessDay.rule s).anchor ≠ some .day := by
  intro hanchor
  simp only [RuleEntry.businessDay] at hanchor
  cases hplace : Reading.workingDay? s with
  | none =>
    rw [hplace] at hanchor
    cases hanchor
  | some place =>
    rw [hplace] at hanchor
    cases place with
    | day day shift => exact Reading.workingDay?_ne_day hplace
    | firstWorkingDay | lastWorkingDay | nthWorkingDay | everyWorkingDay | ordinalWeekday
    | lastDay => cases hanchor

-- What a clause makes of a rule that the last two entries read from a text.
private theorem effect_of_lastEntries (h : WithClause shift s s')
    (hanchor : (Rule.ofLastEntries s).anchor = some .day)
    (hshift : (Rule.ofLastEntries s).shift = .none) :
    ClauseEffect shift s (Rule.ofLastEntries s) (Rule.ofLastEntries s') := by
  rw [Rule.ofLastEntries] at hanchor hshift ⊢
  split at hanchor
  · exact absurd hanchor anchor_businessDay_ne_day
  · next hworking =>
    split at hanchor
    · cases hanchor
    · next hempty =>
      rw [if_neg hworking, if_neg hempty] at hshift ⊢
      have hfamily := SingleDate.family_ofSingleDate hanchor
      refine ⟨?_, ?_, ?_⟩
      · rw [hfamily]
        decide
      · intro hne
        exact absurd hfamily hne
      · intro _ hne
        have hworking' : ¬ Vocabulary.businessDay.occursIn s' = true := by
          rwa [h.businessDay_eq hne]
        rw [Rule.ofLastEntries, if_neg hworking', if_neg (by simp [h.ne_nil])]
        exact SingleDate.effect_of_ofSingleDate h hanchor hshift

/-- What a weekend clause makes of a text that is read as a rule without a shift that has its date
on a day number. -/
theorem Rule.ofText_append_weekendClause {t : List Char} {clause : String}
    (hclause : (clause, shift) ∈ weekendClauses)
    (hanchor : (Rule.ofText t).anchor = some .day) (hshift : (Rule.ofText t).shift = .none) :
    ClauseEffect shift (Text.normalForm t) (Rule.ofText t) (Rule.ofText (t ++ clause.toList)) := by
  have h := withClause_normalForm hclause t
  rw [Rule.ofText_eq] at hanchor hshift ⊢
  rw [Rule.ofText_eq]
  generalize Text.normalForm t = s at *
  generalize Text.normalForm (t ++ clause.toList) = s' at *
  have hfind : recurringEntries.find? (·.applies s') = recurringEntries.find? (·.applies s) :=
    List.find?_congr fun entry hentry ↦ applies_eq h hentry
  rw [hfind]
  cases hentry : recurringEntries.find? (·.applies s) with
  | some entry =>
    rw [hentry] at hanchor hshift
    exact effect_of_recurringEntries h (List.mem_of_find?_eq_some hentry) hanchor hshift
  | none =>
    rw [hentry] at hanchor hshift
    exact effect_of_lastEntries h hanchor hshift

/-- A day number of every month takes the Monday after. -/
theorem Rule.ofText_tenth_nextMonday :
    ((", if weekend then next monday", .nextMonday) ∈ weekendClauses ∧
      (Rule.ofText "10th of every month".toList).anchor = some .day ∧
      (Rule.ofText "10th of every month".toList).shift = .none) ∧
    ClauseEffect .nextMonday (Text.normalForm "10th of every month".toList)
      (Rule.ofText "10th of every month".toList)
      (Rule.ofText ("10th of every month".toList ++ ", if weekend then next monday".toList)) := by
  have h : (", if weekend then next monday", Shift.nextMonday) ∈ weekendClauses ∧
      (Rule.ofText "10th of every month".toList).anchor = some .day ∧
      (Rule.ofText "10th of every month".toList).shift = .none := by
    decide +kernel
  exact ⟨h, Rule.ofText_append_weekendClause h.1 h.2.1 h.2.2⟩

/-- A clause does not move every date: a full date looks for no shift. -/
theorem Rule.not_forall_shift_of_weekendClause :
    ¬ ∀ (t : List Char) (clause : String) (shift : Shift), (clause, shift) ∈ weekendClauses →
      (Rule.ofText t).anchor = some .day → (Rule.ofText t).shift = .none →
        let r := Rule.ofText t
        let r' := Rule.ofText (t ++ clause.toList)
        r'.family = r.family ∧ r'.anchor = r.anchor ∧ r'.day = r.day ∧ r'.month = r.month ∧
          r'.months = r.months ∧ r'.year = r.year ∧ r'.shift = shift := by
  intro h
  have hdate : (Rule.ofText "2026-03-14".toList).anchor = some .day ∧
      (Rule.ofText "2026-03-14".toList).shift = .none := by
    decide +kernel
  have hmoved := (h "2026-03-14".toList ", if weekend then previous friday" .previousFriday
    (by decide) hdate.1 hdate.2).2.2.2.2.2.2
  have hstays : (Rule.ofText ("2026-03-14".toList ++
      ", if weekend then previous friday".toList)).shift = .none := by
    decide +kernel
  rw [hstays] at hmoved
  cases hmoved

end RuleCalendar
