import RuleCalendar.Proofs.Pattern.Places
import RuleCalendar.Proofs.Rule.Clause
import RuleCalendar.Proofs.Rule.Vocabulary

/-!
# Single dates with a weekend clause

Main statement: a clause that asks to move a date off a weekend leaves a single date in its family,
on its day and in its months and year, and moves it as far as the matcher that answered looks for a
shift. The matchers that are tried before the combinations answer the text with the clause as they
answer the text without it; the combinations may take a text from the matchers behind them.
-/

namespace RuleCalendar

variable {shift : Shift} {s s' : List Char} {r : Rule}

namespace SingleDate

/-- The matchers that are tried before the combinations of a day number and a shift. -/
def earlyMatchers : List (String × (List Char → Option Rule)) := matchers.take 6

/-- The names of the matchers that look for every shift. -/
def shiftSeekers : List String := ["named_month", "day_keyword", "bare_day", "nth_of_every_month"]

/-- The rule with a shift, if its matcher looks for every shift. -/
def reshift (shift : Shift) (r : Rule) : Rule :=
  if r.pattern ∈ shiftSeekers then { r with shift := shift } else r

/-- The day number in a text that goes with a shift, if it is one of the combinations. -/
def combinationDay? (shift : Shift) (s : List Char) : Option Int :=
  (Vocabulary.shiftCombinations.find? fun c ↦ containsPhrase c.1 s && c.2.2.2 == shift).map
    (·.2.2.1)

/-! ### The matchers -/

/-- What holds of the answer of the matcher with a name. -/
structure IsAnswer (name : String) (s : List Char) (r : Rule) : Prop where
  pattern : r.pattern = name
  family : r.family = .singleDate
  anchor : r.anchor = some .day
  shift : reshift (Reading.shift s) r = r

private theorem onDate_isAnswer {name : String} {year month day : Int}
    (h : onDate name year month day = some r) (hname : name ∉ shiftSeekers) :
    IsAnswer name s r := by
  rw [onDate] at h
  split at h
  · obtain rfl := Option.some.inj h
    exact ⟨rfl, rfl, rfl, if_neg hname⟩
  · cases h

/-- What a matcher of the table gives is an answer of the name it has there. -/
theorem isAnswer_of_mem {m : String × (List Char → Option Rule)} (hm : m ∈ matchers)
    (h : m.2 s = some r) : IsAnswer m.1 s r := by
  simp only [matchers, List.mem_cons, List.not_mem_nil, or_false] at hm
  rcases hm with rfl | rfl | rfl | rfl | rfl | rfl | rfl | rfl | rfl | rfl
  · simp only [isoDate?] at h
    split at h
    · exact onDate_isAnswer h (by decide)
    · cases h
  · simp only [slashDate?] at h
    split at h
    · exact onDate_isAnswer h (by decide)
    · cases h
  · obtain ⟨month, -, rfl⟩ := Option.map_eq_some_iff.mp h
    exact ⟨rfl, rfl, rfl, rfl⟩
  · obtain ⟨d, -, rfl⟩ := Option.map_eq_some_iff.mp h
    exact ⟨rfl, rfl, rfl, rfl⟩
  · obtain ⟨day, -, rfl⟩ := Option.map_eq_some_iff.mp h
    exact ⟨rfl, rfl, rfl, rfl⟩
  · obtain ⟨day, -, rfl⟩ := Option.map_eq_some_iff.mp h
    exact ⟨rfl, rfl, rfl, rfl⟩
  · obtain ⟨c, -, rfl⟩ := Option.map_eq_some_iff.mp h
    exact ⟨rfl, rfl, rfl, rfl⟩
  · simp only [januaryOnly?] at h
    split at h
    · obtain rfl := Option.some.inj h
      exact ⟨rfl, rfl, rfl, rfl⟩
    · cases h
  · obtain ⟨day, -, rfl⟩ := Option.map_eq_some_iff.mp h
    exact ⟨rfl, rfl, rfl, rfl⟩
  · obtain ⟨day, -, rfl⟩ := Option.map_eq_some_iff.mp h
    exact ⟨rfl, rfl, rfl, rfl⟩

/-- The first matcher that answers makes the rule. -/
theorem ofSingleDate_eq_head?_hits (s : List Char) :
    Rule.ofSingleDate s = ((hits s).head?.map (·.2)).getD .unrecognized := by
  have hanswers : (fun m : String × (List Char → Option Rule) ↦ m.2 s) =
      fun m ↦ ((m.2 s).map (m.1, ·)).map (·.2) := by
    funext m
    rw [Option.map_map]
    exact Option.map_id'.symm
  rw [Rule.ofSingleDate, hits, List.head?_filterMap, List.map_findSome?]
  exact congrArg (fun answers ↦ (matchers.findSome? answers).getD .unrecognized) hanswers

/-- What a matcher answers is told under its name. -/
theorem isAnswer_of_mem_hits {hit : String × Rule} (h : hit ∈ hits s) : IsAnswer hit.1 s hit.2 := by
  obtain ⟨m, hm, hhit⟩ := List.mem_filterMap.mp h
  obtain ⟨r, hanswer, rfl⟩ := Option.map_eq_some_iff.mp hhit
  exact isAnswer_of_mem hm hanswer

/-- A single date is the answer of a matcher, or not understood. -/
theorem ofSingleDate_cases (s : List Char) :
    Rule.ofSingleDate s = .unrecognized ∨ ∃ name, IsAnswer name s (Rule.ofSingleDate s) := by
  rw [ofSingleDate_eq_head?_hits]
  cases hhits : hits s with
  | nil => exact .inl rfl
  | cons hit rest =>
    have hmem : hit ∈ hits s := hhits ▸ List.mem_cons_self
    exact .inr ⟨hit.1, isAnswer_of_mem_hits hmem⟩

/-- A rule that the fallback table reads for a day of the month is one for a single date. -/
theorem family_ofSingleDate (h : (Rule.ofSingleDate s).anchor = some .day) :
    (Rule.ofSingleDate s).family = .singleDate := by
  obtain hunrecognized | ⟨name, hanswer⟩ := ofSingleDate_cases s
  · rw [hunrecognized] at h
    cases h
  · exact hanswer.family

private theorem map_reshift_onDate {name : String} (year month day : Int)
    (hname : name ∉ shiftSeekers) :
    (onDate name year month day).map (reshift shift) = onDate name year month day := by
  rw [onDate]
  split
  · exact congrArg some (if_neg hname)
  · rfl

private theorem isoDate?_eq (h : WithClause shift s s') :
    isoDate? s' = (isoDate? s).map (reshift (Reading.shift s')) := by
  rw [isoDate?, isoDate?, h.search_eq (by simp [Vocabulary.beyondWeekends])]
  split
  · exact (map_reshift_onDate _ _ _ (by decide)).symm
  · rfl

private theorem slashDate?_eq (h : WithClause shift s s') :
    slashDate? s' = (slashDate? s).map (reshift (Reading.shift s')) := by
  rw [slashDate?, slashDate?, h.search_eq (by simp [Vocabulary.beyondWeekends])]
  split
  · exact (map_reshift_onDate _ _ _ (by decide)).symm
  · rfl

private theorem namedMonth?_eq (h : WithClause shift s s') :
    namedMonth? s' = (namedMonth? s).map (reshift (Reading.shift s')) := by
  rw [namedMonth?, namedMonth?, h.month?_eq, h.monthDay?_eq, Option.map_map]
  rfl

private theorem holiday?_eq (h : WithClause shift s s') :
    holiday? s' = (holiday? s).map (reshift (Reading.shift s')) := by
  have hfind : Vocabulary.holidays.find? (fun d ↦ containsPhrase d.1 s') =
      Vocabulary.holidays.find? (fun d ↦ containsPhrase d.1 s) := by
    apply List.find?_congr
    intro d hd
    apply h.containsPhrase_eq
    simp only [Vocabulary.beyondWeekends, List.mem_append, List.mem_map]
    exact .inl (.inr ⟨d, hd, rfl⟩)
  rw [holiday?, holiday?, hfind, Option.map_map]
  rfl

private theorem dayKeyword?_eq (h : WithClause shift s s') :
    dayKeyword? s' = (dayKeyword? s).map (reshift (Reading.shift s')) := by
  rw [dayKeyword?, dayKeyword?, h.keywordDay?_eq, Option.map_map]
  rfl

private theorem bareDay?_eq (h : WithClause shift s s') :
    bareDay? s' = (bareDay? s).map (reshift (Reading.shift s')) := by
  rw [bareDay?, bareDay?, h.bareDay?_eq, Option.map_map]
  rfl

private theorem nthOfEveryMonth?_eq (h : WithClause shift s s') :
    nthOfEveryMonth? s' = (nthOfEveryMonth? s).map (reshift (Reading.shift s')) := by
  rw [nthOfEveryMonth?, nthOfEveryMonth?, h.first?_eq (by simp [Vocabulary.beyondWeekends]),
    Option.map_map]
  rfl

/-- The early matchers answer the text with the clause as they answer the text without it. -/
theorem findSome?_earlyMatchers (h : WithClause shift s s') :
    earlyMatchers.findSome? (·.2 s') =
      (earlyMatchers.findSome? (·.2 s)).map (reshift (Reading.shift s')) := by
  rw [List.map_findSome?]
  apply findSome?_congr
  intro m hm
  simp only [earlyMatchers, matchers, List.take, List.mem_cons, List.not_mem_nil, or_false] at hm
  rcases hm with rfl | rfl | rfl | rfl | rfl | rfl
  · exact isoDate?_eq h
  · exact slashDate?_eq h
  · exact namedMonth?_eq h
  · exact holiday?_eq h
  · exact dayKeyword?_eq h
  · exact bareDay?_eq h

/-- A combination that the text does not hold by itself is one of its day number and the clause. -/
theorem shiftCombination?_eq (h : WithClause shift s s') (hs : shiftCombination? s = none) :
    shiftCombination? s' = (combinationDay? shift s).map fun day ↦
      { onDay "shift_combo" day with shift := shift } := by
  have hnone : ∀ c ∈ Vocabulary.shiftCombinations,
      (containsPhrase c.1 s && containsPhrase c.2.1 s) = false := by
    simpa [shiftCombination?] using hs
  have hfind : Vocabulary.shiftCombinations.find?
        (fun c ↦ containsPhrase c.1 s' && containsPhrase c.2.1 s') =
      Vocabulary.shiftCombinations.find? (fun c ↦ containsPhrase c.1 s && c.2.2.2 == shift) := by
    apply List.find?_congr
    intro c hc
    have htoken : containsPhrase c.1 s' = containsPhrase c.1 s := by
      apply h.containsPhrase_eq
      simp only [Vocabulary.beyondWeekends, List.mem_append, List.mem_map]
      exact .inr ⟨c, hc, rfl⟩
    rw [htoken, h.containsPhrase_combination hc, Bool.and_or_distrib_left, hnone c hc,
      Bool.false_or]
  rw [shiftCombination?, hfind, combinationDay?, Option.map_map]
  apply Option.map_congr
  intro c hc
  have hshift : c.2.2.2 = shift := by
    have hc := List.find?_some hc
    rw [Bool.and_eq_true] at hc
    exact eq_of_beq hc.2
  rw [hshift]
  rfl

/-- The matcher for January alone is never reached. -/
theorem januaryOnly?_eq_none (h : namedMonth? s = none) : januaryOnly? s = none := by
  have hmonth : Vocabulary.monthWord.first? s = none := by
    rw [namedMonth?, Option.map_eq_none_iff] at h
    exact h
  have hjanuary : ¬ Vocabulary.januaryOnly.occursIn s = true := by
    intro hs
    have hread := Vocabulary.first?_monthWord_isSome (Vocabulary.monthWord_of_januaryOnly hs)
    rw [hmonth] at hread
    cases hread
  rw [januaryOnly?, if_neg hjanuary]

private theorem runsEvery?_eq (h : WithClause shift s s') :
    runsEvery? s' = (runsEvery? s).map fun r ↦
      { r with shift := if containsPhrase "previous friday" s' then .previousFriday else .none } := by
  rw [runsEvery?, runsEvery?, h.first?_eq (by simp [Vocabulary.beyondWeekends]), Option.map_map]
  rfl

private theorem findSome?_cons {α β : Type} (f : α → Option β) (a : α) (l : List α) :
    (a :: l).findSome? f = (f a).or (l.findSome? f) := by
  rw [List.findSome?_cons]
  cases f a <;> rfl

/-- The combinations come after the early matchers, and three matchers after them. -/
theorem ofSingleDate_eq (s : List Char) :
    Rule.ofSingleDate s = ((earlyMatchers.findSome? (·.2 s)).or <| (shiftCombination? s).or <|
      (januaryOnly? s).or <| (nthOfEveryMonth? s).or (runsEvery? s)).getD .unrecognized := by
  have hmatchers : matchers = earlyMatchers ++
      [("shift_combo", shiftCombination?), ("january_only", januaryOnly?),
        ("nth_of_every_month", nthOfEveryMonth?), ("runs_every", runsEvery?)] := rfl
  rw [Rule.ofSingleDate, hmatchers, List.findSome?_append]
  simp only [findSome?_cons, List.findSome?_nil, Option.or_none]

end SingleDate

/-! ### Single dates -/

/-- What the clause for a shift makes of a single date without a shift, as long as the clause makes
no rule for working days of it. -/
structure SingleDateEffect (shift : Shift) (s : List Char) (r r' : Rule) : Prop where
  /-- The rule comes from one of eight matchers. -/
  pattern : r.pattern ∈ ["iso_date", "slash_date", "holiday", "named_month", "day_keyword",
    "bare_day", "nth_of_every_month", "runs_every"]
  /-- A full date and a holiday stay where they are. -/
  fixed : r.pattern ∈ ["iso_date", "slash_date", "holiday"] → r' = r
  /-- A day of a named month, a day keyword and a bare number take the shift. -/
  moved : r.pattern ∈ ["named_month", "day_keyword", "bare_day"] → r' = { r with shift := shift }
  /-- A day number of every month takes the shift, unless the text holds a day number that goes
  with the shift. -/
  numbered : r.pattern = "nth_of_every_month" → SingleDate.combinationDay? shift s = none →
    r' = { r with shift := shift }
  /-- A day number after "runs every" only moves to the Friday before, unless the text holds a day
  number that goes with the shift. -/
  runs : r.pattern = "runs_every" → SingleDate.combinationDay? shift s = none →
    r' = if shift = .previousFriday then { r with shift := shift } else r
  /-- A day number that goes with the shift takes it as a combination. -/
  combined : r.pattern ∈ ["nth_of_every_month", "runs_every"] →
    SingleDate.combinationDay? shift s = r.day →
    r' = { r with pattern := "shift_combo", shift := shift }

namespace SingleDate

-- A rule without a shift whose matcher looks for one takes the shift of the clause.
private theorem reshift_eq (h : WithClause shift s s') {name : String} (hr : IsAnswer name s r)
    (hshift : r.shift = .none) (hname : name ∈ shiftSeekers) :
    reshift (Reading.shift s') r = { r with shift := shift } := by
  rw [← hr.pattern] at hname
  have hreshift (shift : Shift) : reshift shift r = { r with shift := shift } := if_pos hname
  have hown : Reading.shift s = .none := by
    rw [← hshift, ← hr.shift, hreshift]
  rw [hreshift, h.shift_eq hown]

private theorem effect_of_early (h : WithClause shift s s')
    (hr : earlyMatchers.findSome? (·.2 s) = some r) (hshift : r.shift = .none) :
    SingleDateEffect shift s r (reshift (Reading.shift s') r) := by
  obtain ⟨m, hm, hanswer⟩ := List.exists_of_findSome?_eq_some hr
  have hr := isAnswer_of_mem (List.mem_of_mem_take hm) hanswer
  have hearly : r.pattern ∈ earlyMatchers.map (·.1) := hr.pattern ▸ List.mem_map_of_mem hm
  have hlate : r.pattern ∉ ["nth_of_every_month", "runs_every"] :=
    (by decide : ∀ name ∈ earlyMatchers.map (·.1), name ∉ ["nth_of_every_month", "runs_every"])
      _ hearly
  refine ⟨?_, ?_, ?_, ?_, ?_, ?_⟩
  · exact (by decide : earlyMatchers.map (·.1) ⊆ _) hearly
  · intro hfixed
    have hseeks : r.pattern ∉ shiftSeekers :=
      (by decide : ∀ name ∈ ["iso_date", "slash_date", "holiday"], name ∉ _) _ hfixed
    exact if_neg hseeks
  · intro hmoved
    rw [hr.pattern] at hmoved
    exact reshift_eq h hr hshift
      ((by decide : ["named_month", "day_keyword", "bare_day"] ⊆ _) hmoved)
  · intro hnth
    exact absurd (by simp [hnth]) hlate
  · intro hruns
    exact absurd (by simp [hruns]) hlate
  · intro hnumber
    exact absurd hnumber hlate

private theorem shift_ne_none_of_shiftCombination? (h : shiftCombination? s = some r) :
    r.shift ≠ .none := by
  have hshifts : ∀ c ∈ Vocabulary.shiftCombinations, c.2.2.2 ≠ .none := by decide
  obtain ⟨c, hc, rfl⟩ := Option.map_eq_some_iff.mp h
  exact hshifts c (List.mem_of_find?_eq_some hc)

-- Behind the combinations, the text with the clause gives its combination, or else the answer of
-- the matcher that answers the text without it.
private theorem effect_of_late (h : WithClause shift s s')
    (hcombination : shiftCombination? s = none) {name : String} {day : Int} {own : Shift}
    {answer : Rule} (hr : r = { onDay name day with shift := own })
    (hname : name ∈ ["nth_of_every_month", "runs_every"])
    (hnth : name = "nth_of_every_month" → answer = { r with shift := shift })
    (hruns : name = "runs_every" →
      answer = if shift = .previousFriday then { r with shift := shift } else r) :
    SingleDateEffect shift s r (((shiftCombination? s').or (some answer)).getD .unrecognized) := by
  obtain rfl : r.pattern = name := by
    rw [hr]
    rfl
  have hother : r.pattern ∉ ["iso_date", "slash_date", "holiday", "named_month", "day_keyword",
      "bare_day"] :=
    (by decide : ∀ name ∈ ["nth_of_every_month", "runs_every"], name ∉ _) r.pattern hname
  rw [shiftCombination?_eq h hcombination]
  refine ⟨?_, ?_, ?_, ?_, ?_, ?_⟩
  · exact (by decide : ["nth_of_every_month", "runs_every"] ⊆ _) hname
  · intro hfixed
    exact absurd ((by decide : ["iso_date", "slash_date", "holiday"] ⊆ _) hfixed) hother
  · intro hmoved
    exact absurd ((by decide : ["named_month", "day_keyword", "bare_day"] ⊆ _) hmoved) hother
  · intro hthis hnone
    rw [hnone]
    exact hnth hthis
  · intro hthis hnone
    rw [hnone]
    exact hruns hthis
  · intro _ hday
    rw [hday, hr]
    rfl

private theorem effect_of_nthOfEveryMonth (h : WithClause shift s s')
    (hcombination : shiftCombination? s = none) (hr : nthOfEveryMonth? s = some r)
    (hshift : r.shift = .none) :
    SingleDateEffect shift s r (((shiftCombination? s').or <|
      (nthOfEveryMonth? s').or (runsEvery? s')).getD .unrecognized) := by
  have hanswer : IsAnswer "nth_of_every_month" s r :=
    isAnswer_of_mem (m := ("nth_of_every_month", nthOfEveryMonth?)) (by simp [matchers]) hr
  rw [nthOfEveryMonth?_eq h, hr, Option.map_some, Option.some_or,
    reshift_eq h hanswer hshift (by decide)]
  obtain ⟨day, -, hday⟩ := Option.map_eq_some_iff.mp hr
  exact effect_of_late h hcombination hday.symm (by decide) (fun _ ↦ rfl)
    fun hname ↦ absurd hname (by decide)

private theorem effect_of_runsEvery (h : WithClause shift s s')
    (hcombination : shiftCombination? s = none) (hnth : nthOfEveryMonth? s = none)
    (hr : runsEvery? s = some r) (hshift : r.shift = .none) :
    SingleDateEffect shift s r (((shiftCombination? s').or <|
      (nthOfEveryMonth? s').or (runsEvery? s')).getD .unrecognized) := by
  obtain ⟨day, -, hday⟩ := Option.map_eq_some_iff.mp hr
  have hown : containsPhrase "previous friday" s = false := by
    rw [Bool.eq_false_iff]
    intro hphrase
    rw [← hday, hphrase] at hshift
    cases hshift
  have hphrase : containsPhrase "previous friday" s' = (Shift.previousFriday == shift) := by
    have hcombined := h.containsPhrase_combination
      (c := ("9th", "previous friday", 9, .previousFriday)) (by decide)
    rwa [hown, Bool.false_or] at hcombined
  rw [nthOfEveryMonth?_eq h, hnth, Option.map_none, Option.none_or, runsEvery?_eq h, hr,
    Option.map_some, hphrase]
  apply effect_of_late h hcombination hday.symm (by decide)
    (fun hname ↦ absurd hname (by decide))
  intro _
  cases shift with
  | previousFriday => rfl
  | none | nextMonday | nextWorkingDay =>
    exact congrArg (fun own ↦ { r with shift := own }) hshift.symm

/-- What a clause makes of a single date. -/
theorem effect_of_ofSingleDate (h : WithClause shift s s')
    (hanchor : (Rule.ofSingleDate s).anchor = some .day)
    (hshift : (Rule.ofSingleDate s).shift = .none) :
    SingleDateEffect shift s (Rule.ofSingleDate s) (Rule.ofSingleDate s') := by
  rw [ofSingleDate_eq] at hanchor hshift ⊢
  rw [ofSingleDate_eq, findSome?_earlyMatchers h]
  cases hearly : earlyMatchers.findSome? (·.2 s) with
  | some r =>
    rw [hearly] at hshift
    exact effect_of_early h hearly hshift
  | none =>
    have hmonth : namedMonth? s = none :=
      List.findSome?_eq_none_iff.mp hearly ("named_month", namedMonth?)
        (by simp [earlyMatchers, matchers])
    have hmonth' : namedMonth? s' = none := by
      rw [namedMonth?_eq h, hmonth]
      rfl
    simp only [hearly, januaryOnly?_eq_none hmonth, januaryOnly?_eq_none hmonth', Option.map_none,
      Option.none_or] at hanchor hshift ⊢
    cases hcombination : shiftCombination? s with
    | some r =>
      rw [hcombination] at hshift
      exact absurd hshift (shift_ne_none_of_shiftCombination? hcombination)
    | none =>
      rw [hcombination, Option.none_or] at hanchor hshift
      rw [Option.none_or]
      cases hnth : nthOfEveryMonth? s with
      | some r =>
        rw [hnth] at hshift
        exact effect_of_nthOfEveryMonth h hcombination hnth hshift
      | none =>
        rw [hnth, Option.none_or] at hanchor hshift
        rw [Option.none_or]
        cases hruns : runsEvery? s with
        | some r =>
          rw [hruns] at hshift
          exact effect_of_runsEvery h hcombination hnth hruns hshift
        | none =>
          rw [hruns] at hanchor
          cases hanchor

end SingleDate
end RuleCalendar
