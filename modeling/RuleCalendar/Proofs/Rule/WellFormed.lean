import RuleCalendar.Proofs.Rule.Anchor
import RuleCalendar.Proofs.Rule.Ranges
import RuleCalendar.Proofs.Rule.SingleDate

/-!
# Well-formed rules

A rule has the parameters that its family and its anchor need and no others, and they lie in their
ranges. Main statement: so does the rule of every text. Each entry of the rule table makes
well-formed rules of the texts that it takes, and so does each matcher of single dates but the one
for January alone, which no text reaches.
-/

namespace RuleCalendar

variable {s : List Char} {r : Rule}

/-- The families that take several dates of a month or none, and so have no place inside it. -/
def Family.withoutAnchor : List Family := [.daily, .weekly, .weekday, .biweekly, .unrecognized]

private theorem Family.isAnchored_iff {family : Family} :
    family.isAnchored = true ↔ family ∉ Family.withoutAnchor := by
  cases family <;> decide

namespace SingleDate

/-- The names of the matchers that answer with a year. -/
def fullDates : List String := ["iso_date", "slash_date"]

/-- The names of the matchers that answer with a month. -/
def datesOfOneMonth : List String := ["iso_date", "slash_date", "named_month", "holiday"]

end SingleDate

namespace Rule

/-- The months that a rule is limited to, by its own month or by its family. -/
def monthsOf (r : Rule) : List Int :=
  match r.month with
  | some month => [month]
  | none =>
    match r.family with
    | .quarterly => [1, 4, 7, 10]
    | .semiannual => [1, 7]
    | _ => []

/-- The place inside the month is described by what its anchor needs, within its range. -/
structure WellPlaced (r : Rule) : Prop where
  anchor : r.anchor = none ↔ r.family ∈ Family.withoutAnchor
  everyWorkingDay : r.anchor = some .everyWorkingDay → r.family = .businessDay
  weekday : r.weekday.isSome = true ↔
    r.family ∈ [.weekly, .weekday, .biweekly] ∨ r.anchor = some .ordinalWeekday
  weekday_bounds : ∀ n ∈ r.weekday, 0 ≤ n ∧ n ≤ 6
  ordinal : r.ordinal.isSome = true ↔
    r.anchor = some .ordinalWeekday ∨ r.anchor = some .nthWorkingDay
  ordinal_bounds : ∀ n ∈ r.ordinal, (r.anchor = some .ordinalWeekday → -1 ≤ n ∧ n ≤ 4) ∧
    (r.anchor = some .nthWorkingDay → 0 ≤ n ∧ n ≤ 98)
  day : r.day.isSome = true ↔ r.anchor = some .day
  day_bounds : ∀ n ∈ r.day,
    if r.pattern ∈ SingleDate.fullDates then 0 ≤ n ∧ n ≤ 99 else 1 ≤ n ∧ n ≤ 31
  shift : r.shift ≠ .none → r.anchor = some .day

/-- A rule with an anchor is of a family that has its dates there. -/
theorem WellPlaced.isAnchored (h : r.WellPlaced) (hanchor : r.anchor ≠ none) :
    r.family.isAnchored = true := by
  rwa [Family.isAnchored_iff, ← h.anchor]

/-- The months and the year that the rule is limited to are those that its family and its pattern
call for. -/
structure WellLimited (r : Rule) : Prop where
  year : r.year.isSome = true ↔ r.pattern ∈ SingleDate.fullDates
  month : r.month.isSome = true ↔ r.family = .annual ∨ r.pattern ∈ SingleDate.datesOfOneMonth
  month_bounds : ∀ n ∈ r.month, 1 ≤ n ∧ n ≤ 12
  months : r.months = r.monthsOf

/-- The rule has the parameters that its family, its anchor and its pattern call for, and no others,
and they lie in their ranges. -/
structure WellFormed (r : Rule) : Prop extends r.WellPlaced, r.WellLimited where
  excludeWeekends : r.excludeWeekends = true → r.family = .daily
  unrecognized : r.family = .unrecognized → r = .unrecognized

/-! ### Places -/

/-- A rule that names no month is limited to the months of its family. -/
theorem wellLimited_of_no_month (hfamily : r.family ≠ .annual)
    (hpattern : r.pattern ∉ SingleDate.datesOfOneMonth) (hyear : r.year = none)
    (hmonth : r.month = none) (hmonths : r.months = r.monthsOf) : r.WellLimited := by
  have hfull : r.pattern ∉ SingleDate.fullDates := fun h ↦
    hpattern ((by decide : SingleDate.fullDates ⊆ SingleDate.datesOfOneMonth) h)
  refine ⟨?_, ?_, ?_, hmonths⟩
  · simp [hyear, hfull]
  · simp [hmonth, hfamily, hpattern]
  · simp [hmonth]

/-- A rule that takes all days or none. -/
theorem wellPlaced_of_bare {family : Family} {pattern : String} {noWeekends : Bool}
    (hfamily : family ∈ [.daily, .unrecognized]) :
    WellPlaced { family := family, pattern := pattern, excludeWeekends := noWeekends } where
  anchor := by
    simp only [List.mem_cons, List.not_mem_nil, or_false] at hfamily
    rcases hfamily with rfl | rfl <;> simp [Family.withoutAnchor]
  everyWorkingDay := nofun
  weekday := by
    simp only [List.mem_cons, List.not_mem_nil, or_false] at hfamily
    rcases hfamily with rfl | rfl <;> simp
  weekday_bounds := nofun
  ordinal := by simp
  ordinal_bounds := nofun
  day := by simp
  day_bounds := nofun
  shift h := absurd rfl h

/-- The rule of a text that is not understood is well formed. -/
theorem wellFormed_unrecognized : Rule.unrecognized.WellFormed :=
  ⟨wellPlaced_of_bare (by decide), wellLimited_of_no_month (by decide) (by decide) rfl rfl rfl,
    nofun, fun _ ↦ rfl⟩

/-- A rule with a weekday and no place inside the month. -/
theorem wellPlaced_of_weekday {family : Family} {pattern : String} {n : Int}
    (hfamily : family ∈ [.weekly, .weekday, .biweekly]) (hn : 0 ≤ n ∧ n ≤ 6) :
    WellPlaced { family := family, pattern := pattern, weekday := some n } where
  anchor := by
    simp only [List.mem_cons, List.not_mem_nil, or_false] at hfamily
    rcases hfamily with rfl | rfl | rfl <;> simp [Family.withoutAnchor]
  everyWorkingDay := nofun
  weekday := by simpa using hfamily
  weekday_bounds := by
    rintro k ⟨⟩
    exact hn
  ordinal := by simp
  ordinal_bounds := nofun
  day := by simp
  day_bounds := nofun
  shift h := absurd rfl h

/-- A rule with its date at a place has what its anchor needs from the place. -/
theorem wellPlaced_at {family : Family} {pattern : String} {month : Option Int}
    {months : List Int} {place : Place} (hfamily : family ∉ Family.withoutAnchor)
    (hpattern : pattern ∉ SingleDate.fullDates) (hplace : place.InRange)
    (hevery : place = .everyWorkingDay → family = .businessDay) :
    (Rule.at { family := family, pattern := pattern, month := month, months := months }
      place).WellPlaced where
  anchor := by cases place <;> simpa [Rule.at] using hfamily
  everyWorkingDay := by
    cases place with
    | everyWorkingDay => exact fun _ ↦ hevery rfl
    | _ => simp [Rule.at]
  weekday := by
    have hweekly : family ∉ [.weekly, .weekday, .biweekly] := fun h ↦
      hfamily ((by decide : [Family.weekly, .weekday, .biweekly] ⊆ Family.withoutAnchor) h)
    cases place with
    | ordinalWeekday ordinal weekday => simp [Rule.at]
    | _ => simpa [Rule.at] using hweekly
  weekday_bounds := by
    cases place with
    | ordinalWeekday ordinal weekday => simpa [Rule.at] using hplace.2
    | _ => simp [Rule.at]
  ordinal := by cases place <;> simp [Rule.at]
  ordinal_bounds := by
    cases place with
    | ordinalWeekday ordinal weekday => simpa [Rule.at] using hplace.1
    | nthWorkingDay ordinal => simpa [Rule.at, Place.InRange] using hplace
    | _ => simp [Rule.at]
  day := by cases place <;> simp [Rule.at]
  day_bounds := by
    cases place with
    | day n shift => simpa [Rule.at, hpattern, Place.InRange] using hplace
    | _ => simp [Rule.at]
  shift := by cases place <;> simp [Rule.at]

/-- A place does not change what the rule is limited to. -/
theorem wellLimited_at (h : r.WellLimited) (place : Place) : (r.at place).WellLimited := by
  cases place <;> exact ⟨h.year, h.month, h.month_bounds, h.months⟩

/-- A rule of an anchored family other than single dates, with its date at a place. -/
theorem wellFormed_at {family : Family} {pattern : String} {month : Option Int}
    {months : List Int} {place : Place} (hfamily : family ∉ Family.withoutAnchor)
    (hpattern : pattern ∉ SingleDate.fullDates) (hplace : place.InRange)
    (hevery : place = .everyWorkingDay → family = .businessDay)
    (hlimited : WellLimited
      { family := family, pattern := pattern, month := month, months := months }) :
    (Rule.at { family := family, pattern := pattern, month := month, months := months }
      place).WellFormed where
  toWellPlaced := wellPlaced_at hfamily hpattern hplace hevery
  toWellLimited := wellLimited_at hlimited place
  excludeWeekends h := by cases place <;> cases h
  unrecognized h := by
    have hunrecognized : family = .unrecognized := by cases place <;> exact h
    rw [hunrecognized] at hfamily
    exact absurd (by decide) hfamily

end Rule

/-! ### Single dates -/

namespace SingleDate

private theorem hasAnchor : Family.singleDate ∉ Family.withoutAnchor := by decide

/-- A day number of every month. -/
theorem wellFormed_onDay {pattern : String} {day : Int} {shift : Shift}
    (hpattern : pattern ∉ datesOfOneMonth) (hday : 1 ≤ day ∧ day ≤ 31) :
    Rule.WellFormed { onDay pattern day with shift := shift } := by
  have hfull : pattern ∉ fullDates := fun h ↦
    hpattern ((by decide : fullDates ⊆ datesOfOneMonth) h)
  have hlimited : Rule.WellLimited { family := .singleDate, pattern := pattern } :=
    Rule.wellLimited_of_no_month (by simp) hpattern rfl rfl rfl
  have hplace : (Place.day day shift).InRange := hday
  exact Rule.wellFormed_at hasAnchor hfull hplace nofun hlimited

/-- A day number of one month, named or that of a holiday. -/
theorem wellFormed_inMonth {pattern : String} {day month : Int} {shift : Shift}
    (hpattern : pattern ∈ datesOfOneMonth) (hfull : pattern ∉ fullDates)
    (hday : 1 ≤ day ∧ day ≤ 31) (hmonth : 1 ≤ month ∧ month ≤ 12) :
    Rule.WellFormed { inMonth (onDay pattern day) month with shift := shift } := by
  have hlimited : Rule.WellLimited
      { family := .singleDate, pattern := pattern, month := some month, months := [month] } := by
    refine ⟨iff_of_false nofun hfull, iff_of_true rfl (.inr hpattern), ?_, rfl⟩
    rintro n ⟨⟩
    exact hmonth
  have hplace : (Place.day day shift).InRange := hday
  exact Rule.wellFormed_at hasAnchor hfull hplace nofun hlimited

/-- One date, whether there is such a day or not. -/
theorem wellFormed_onDate {pattern : String} {year month day : Int}
    (h : onDate pattern year month day = some r) (hpattern : pattern ∈ fullDates)
    (hday : 0 ≤ day ∧ day ≤ 99) : r.WellFormed := by
  rw [onDate] at h
  split at h
  · next hmonth =>
    obtain rfl := Option.some.inj h
    have hone : pattern ∈ datesOfOneMonth := (by decide : fullDates ⊆ datesOfOneMonth) hpattern
    have hbounds : if pattern ∈ fullDates then 0 ≤ day ∧ day ≤ 99 else 1 ≤ day ∧ day ≤ 31 := by
      rwa [if_pos hpattern]
    exact {
      anchor := iff_of_false (by simp [inMonth, onDay]) hasAnchor
      everyWorkingDay := by simp [inMonth, onDay]
      weekday := by simp [inMonth, onDay]
      weekday_bounds := by simp [inMonth, onDay]
      ordinal := by simp [inMonth, onDay]
      ordinal_bounds := by simp [inMonth, onDay]
      day := iff_of_true rfl rfl
      day_bounds := by
        rintro n ⟨⟩
        exact hbounds
      shift := fun _ ↦ rfl
      year := iff_of_true rfl hpattern
      month := iff_of_true rfl (.inr hone)
      month_bounds := by
        rintro n ⟨⟩
        exact hmonth
      months := rfl
      excludeWeekends := by simp [inMonth, onDay]
      unrecognized := by simp [inMonth, onDay] }
  · cases h

-- A day number that is missing is the first of the month.
private theorem getD_bounds {o : Option Int} (h : ∀ n, o = some n → 1 ≤ n ∧ n ≤ 31) :
    1 ≤ o.getD 1 ∧ o.getD 1 ≤ 31 := by
  cases o with
  | none => decide
  | some n => exact h n rfl

/-- Every matcher but the one for January alone answers with well-formed rules. -/
theorem wellFormed_of_mem_matchers {m : String × (List Char → Option Rule)} (hm : m ∈ matchers)
    (hjanuary : m.1 ≠ "january_only") (h : m.2 s = some r) : r.WellFormed := by
  simp only [matchers, List.mem_cons, List.not_mem_nil, or_false] at hm
  rcases hm with rfl | rfl | rfl | rfl | rfl | rfl | rfl | rfl | rfl | rfl
  · simp only [isoDate?] at h
    split at h
    · next hsearch =>
      have hbounds : Vocabulary.isoDate.readsWithin [(0, 9999), (0, 99), (0, 99)] = true := by
        decide
      have hwithin := Pattern.within_of_search hbounds hsearch
      simp only [Pattern.Within, List.forall₂_cons] at hwithin
      exact wellFormed_onDate h (by decide) hwithin.2.2.1
    · cases h
  · simp only [slashDate?] at h
    split at h
    · next hsearch =>
      have hbounds : Vocabulary.slashDate.readsWithin [(0, 99), (0, 99), (0, 9999)] = true := by
        decide
      have hwithin := Pattern.within_of_search hbounds hsearch
      simp only [Pattern.Within, List.forall₂_cons] at hwithin
      exact wellFormed_onDate h (by decide) hwithin.2.1
    · cases h
  · obtain ⟨month, hmonth, rfl⟩ := Option.map_eq_some_iff.mp h
    exact wellFormed_inMonth (by decide) (by decide)
      (getD_bounds fun n ↦ Reading.monthDay?_bounds) (Reading.month?_bounds hmonth)
  · have hholidays : ∀ h ∈ Vocabulary.holidays,
        (1 ≤ h.2.2 ∧ h.2.2 ≤ 31) ∧ 1 ≤ h.2.1 ∧ h.2.1 ≤ 12 := by decide
    obtain ⟨d, hd, rfl⟩ := Option.map_eq_some_iff.mp h
    obtain ⟨hday, hmonth⟩ := hholidays d (List.mem_of_find?_eq_some hd)
    exact wellFormed_inMonth (by decide) (by decide) hday hmonth
  · obtain ⟨day, hday, rfl⟩ := Option.map_eq_some_iff.mp h
    exact wellFormed_onDay (by decide) (Reading.keywordDay?_bounds hday)
  · obtain ⟨day, hday, rfl⟩ := Option.map_eq_some_iff.mp h
    exact wellFormed_onDay (by decide) (Reading.bareDay?_bounds hday)
  · have hdays : ∀ c ∈ Vocabulary.shiftCombinations, 1 ≤ c.2.2.1 ∧ c.2.2.1 ≤ 31 := by decide
    obtain ⟨c, hc, rfl⟩ := Option.map_eq_some_iff.mp h
    exact wellFormed_onDay (by decide) (hdays c (List.mem_of_find?_eq_some hc))
  · exact absurd rfl hjanuary
  · obtain ⟨day, hday, rfl⟩ := Option.map_eq_some_iff.mp h
    exact wellFormed_onDay (by decide) (Reading.validDay?_bounds hday)
  · obtain ⟨day, hday, rfl⟩ := Option.map_eq_some_iff.mp h
    exact wellFormed_onDay (by decide) (Reading.validDay?_bounds hday)

-- What the matchers behind a matcher answer, if it gives none, is well-formed with its answer.
private theorem wellFormed_or {m : String × (List Char → Option Rule)} (hm : m ∈ matchers)
    (hjanuary : m.1 ≠ "january_only") {rest : Option Rule}
    (hrest : (rest.getD .unrecognized).WellFormed) :
    (((m.2 s).or rest).getD .unrecognized).WellFormed := by
  cases hanswer : m.2 s with
  | some r => exact wellFormed_of_mem_matchers hm hjanuary hanswer
  | none => exact hrest

/-- A text that is read as a single date gives a well-formed rule. -/
theorem wellFormed_ofSingleDate (s : List Char) : (Rule.ofSingleDate s).WellFormed := by
  rw [ofSingleDate_eq]
  cases hearly : earlyMatchers.findSome? (·.2 s) with
  | some r =>
    obtain ⟨m, hm, hanswer⟩ := List.exists_of_findSome?_eq_some hearly
    have hnames : ∀ name ∈ earlyMatchers.map (·.1), name ≠ "january_only" := by decide
    exact wellFormed_of_mem_matchers (List.mem_of_mem_take hm)
      (hnames m.1 (List.mem_map_of_mem hm)) hanswer
  | none =>
    -- a phrase for January alone names a month, and months come before it
    have hmonth : namedMonth? s = none :=
      List.findSome?_eq_none_iff.mp hearly ("named_month", namedMonth?)
        (by simp [earlyMatchers, matchers])
    have hruns : ((runsEvery? s).getD .unrecognized).WellFormed := by
      rw [← Option.or_none (o := runsEvery? s)]
      exact wellFormed_or (m := ("runs_every", runsEvery?)) (by simp [matchers]) (by decide)
        Rule.wellFormed_unrecognized
    rw [januaryOnly?_eq_none hmonth, Option.none_or, Option.none_or]
    refine wellFormed_or (m := ("shift_combo", shiftCombination?)) (by simp [matchers])
      (by decide) ?_
    exact wellFormed_or (m := ("nth_of_every_month", nthOfEveryMonth?)) (by simp [matchers])
      (by decide) hruns

end SingleDate

/-! ### All texts -/

namespace Rule

/-- A rule with its date at the place that is read from a text. -/
theorem wellFormed_at_place {family : Family} {pattern : String} {month : Option Int}
    {months : List Int} {dayOf : List Char → Option Int} (hfamily : family ∉ Family.withoutAnchor)
    (hpattern : pattern ∉ SingleDate.fullDates)
    (hlimited : WellLimited
      { family := family, pattern := pattern, month := month, months := months })
    (hday : ∀ n, dayOf s = some n → 1 ≤ n ∧ n ≤ 31) :
    (Rule.at { family := family, pattern := pattern, month := month, months := months }
      (Reading.place dayOf s)).WellFormed := by
  obtain ⟨hrange, hne⟩ := Reading.place_inRange hday
  exact wellFormed_at hfamily hpattern hrange (fun h ↦ absurd h hne) hlimited

end Rule

namespace RuleEntry

-- A weekday that is missing is Monday.
private theorem weekday_bounds (s : List Char) :
    0 ≤ (Reading.weekday? s).getD 0 ∧ (Reading.weekday? s).getD 0 ≤ 6 := by
  cases hn : Reading.weekday? s with
  | none => decide
  | some n => exact Reading.weekday?_bounds hn

-- A month that is missing is January.
private theorem month_bounds (s : List Char) :
    1 ≤ (Reading.month? s).getD 1 ∧ (Reading.month? s).getD 1 ≤ 12 := by
  cases hn : Reading.month? s with
  | none => decide
  | some n => exact Reading.month?_bounds hn

-- A rule with a weekday.
private theorem wellFormed_of_weekday {family : Family} {pattern : String} {n : Int}
    (hfamily : family ∈ [.weekly, .weekday, .biweekly])
    (hpattern : pattern ∉ SingleDate.datesOfOneMonth) (hn : 0 ≤ n ∧ n ≤ 6) :
    Rule.WellFormed { family := family, pattern := pattern, weekday := some n } := by
  have hplaced : Rule.WellPlaced { family := family, pattern := pattern, weekday := some n } :=
    Rule.wellPlaced_of_weekday hfamily hn
  simp only [List.mem_cons, List.not_mem_nil, or_false] at hfamily
  rcases hfamily with rfl | rfl | rfl <;>
    exact ⟨hplaced, Rule.wellLimited_of_no_month nofun hpattern rfl rfl rfl, nofun, nofun⟩

/-- Every entry makes well-formed rules of the texts that it takes. -/
theorem wellFormed_rule {entry : RuleEntry} (hentry : entry ∈ ruleTable)
    (happlies : entry.applies s = true) : (entry.rule s).WellFormed := by
  simp only [ruleTable, List.mem_cons, List.not_mem_nil, or_false] at hentry
  rcases hentry with rfl | rfl | rfl | rfl | rfl | rfl | rfl | rfl | rfl | rfl | rfl | rfl
  · exact ⟨Rule.wellPlaced_of_bare (by decide),
      Rule.wellLimited_of_no_month nofun (by simp [daily, SingleDate.datesOfOneMonth]) rfl rfl rfl,
      fun _ ↦ rfl, nofun⟩
  · exact wellFormed_of_weekday (by decide) (by decide) (weekday_bounds s)
  · exact Rule.wellFormed_at_place (by decide) (by decide)
      (Rule.wellLimited_of_no_month nofun (by decide) rfl rfl rfl) fun _ ↦ Reading.day?_bounds
  · have hreads : Vocabulary.everyWeekday.readsWithin [(0, 6)] = true := by decide
    obtain ⟨n, hn⟩ := Option.isSome_iff_exists.mp (Pattern.first?_isSome hreads happlies)
    simp only [everyWeekday, hn]
    exact wellFormed_of_weekday (by decide) (by decide) (Pattern.bounds_of_first? hreads hn)
  · exact wellFormed_of_weekday (by decide) (by decide) (weekday_bounds s)
  · exact Rule.wellFormed_at_place (by decide) (by decide)
      (Rule.wellLimited_of_no_month nofun (by decide) rfl rfl rfl) fun _ ↦ Reading.day?_bounds
  · exact Rule.wellFormed_at_place (by decide) (by decide)
      (Rule.wellLimited_of_no_month nofun (by decide) rfl rfl rfl) fun _ ↦ Reading.day?_bounds
  · have hlimited {month : Int} (hmonth : 1 ≤ month ∧ month ≤ 12) : Rule.WellLimited
        { family := .annual, pattern := "annual", month := some month, months := [month] } := by
      refine ⟨iff_of_false nofun (by simp [SingleDate.fullDates]), iff_of_true rfl (.inl rfl), ?_,
        rfl⟩
      rintro n ⟨⟩
      exact hmonth
    exact Rule.wellFormed_at_place (by decide) (by decide) (hlimited (month_bounds s))
      fun _ ↦ Reading.monthDay?_bounds
  · have hrange : Place.lastDay.InRange := trivial
    exact Rule.wellFormed_at (by decide) (by decide) hrange nofun
      (Rule.wellLimited_of_no_month nofun (by decide) rfl rfl rfl)
  · obtain ⟨⟨rank, weekday⟩, hpair⟩ :=
      Option.isSome_iff_exists.mp (Reading.ordinalWeekday?_isSome happlies)
    have hrange : (Place.ordinalWeekday rank weekday).InRange :=
      Reading.ordinalWeekday?_bounds hpair
    simp only [ordinalWeekday, hpair]
    exact Rule.wellFormed_at (by decide) (by decide) hrange nofun
      (Rule.wellLimited_of_no_month nofun (by decide) rfl rfl rfl)
  · have hrange : ((Reading.workingDay? s).getD .everyWorkingDay).InRange := by
      cases hplace : Reading.workingDay? s with
      | none => exact trivial
      | some place => exact Reading.workingDay?_inRange hplace
    exact Rule.wellFormed_at (by decide) (by decide) hrange (fun _ ↦ rfl)
      (Rule.wellLimited_of_no_month nofun (by decide) rfl rfl rfl)
  · exact SingleDate.wellFormed_ofSingleDate s

end RuleEntry

/-- What holds of the rules that entries make of texts that they take, and of the rule that is not
understood, holds of the rule of every text. -/
theorem Rule.ofText_cases {p : Rule → Prop} (hnone : p .unrecognized)
    (hentry : ∀ entry ∈ ruleTable, ∀ s, entry.applies s = true → p (entry.rule s))
    (t : List Char) : p (Rule.ofText t) := by
  simp only [Rule.ofText]
  split
  · next entry hfind =>
    have happlies := List.find?_some hfind
    exact hentry entry (List.mem_of_find?_eq_some hfind) _ happlies
  · exact hnone

/-- Every text gives a rule with what its place inside the month needs. -/
theorem Rule.wellPlaced_ofText (t : List Char) : (Rule.ofText t).WellPlaced :=
  Rule.ofText_cases Rule.wellFormed_unrecognized.toWellPlaced
    (fun _ hentry _ happlies ↦ (RuleEntry.wellFormed_rule hentry happlies).toWellPlaced) t

/-- Every text gives a well-formed rule. -/
theorem Rule.wellFormed_ofText (t : List Char) : (Rule.ofText t).WellFormed :=
  Rule.ofText_cases Rule.wellFormed_unrecognized
    (fun _ hentry _ happlies ↦ RuleEntry.wellFormed_rule hentry happlies) t

end RuleCalendar
