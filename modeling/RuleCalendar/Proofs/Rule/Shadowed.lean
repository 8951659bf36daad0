import RuleCalendar.Proofs.Rule.Count
import RuleCalendar.Proofs.Rule.Vocabulary
import RuleCalendar.Proofs.Rule.WrittenDate

/-!
# Matchers that never decide

A text that an earlier entry or matcher takes is never seen by a later one. Main statement: the matcher
for January alone decides no text, since each of its phrases names a month; and the one for a day
number of every month decides a text only by a number after "every", since its other phrase holds the
words for every month.
-/

namespace RuleCalendar

open Pattern

variable {here there : Cursor} {ns : List Int} {s : List Char}

/-- The word "every", a space behind it, and a number of one or two digits behind the space. -/
structure IsEveryNumber (start stop first last : Cursor) (ds : List Char) : Prop where
  word : start.atEdge = true ∧ start.Reads "every".toList stop ∧ stop.atEdge = true
  space : stop.Reads [' '] first
  number : first.IsRun ds last
  length : ds.length ≤ 2

/-- The text holds "every" and a number of one or two digits. -/
def HoldsEveryNumber (s : List Char) : Prop :=
  ∃ (start stop first last : Cursor) (ds : List Char), start.text = s ∧
    IsEveryNumber start stop first last ds

/-- A day number ends where no digit goes on: before an ending, or else at an edge. -/
theorem Vocabulary.any_isDigit_of_optional_ending {mid : Cursor} {ms : List Int}
    (hnumber : dayNumber.Matches here ns mid)
    (hending : (optional ordinalEnding).Matches mid ms there) (hedge : there.atEdge = true) :
    mid.ahead.head?.any Text.isDigit = false := by
  cases matches_optional.mp hending with
  | inl hmatch =>
    obtain ⟨-, ending, hmem, hread⟩ := matches_oneOfTexts.mp hmatch
    obtain ⟨hne, hdigit, -⟩ := Date.any_of_mem_ordinalEndings hmem
    rw [hread.ahead, List.head?_append_of_ne_nil _ hne]
    exact hdigit
  | inr hstay =>
    obtain ⟨-, rfl⟩ := hstay
    exact (any_isDigit_of_dayNumber hnumber).2 hedge

/-- The number after "every" is a number of its own. -/
theorem holdsEveryNumber_of_everyDayNumber (h : Vocabulary.everyDayNumber.Matches here ns there) :
    HoldsEveryNumber here.text := by
  obtain ⟨_, stop, _, hmatch, -, -⟩ := matches_follow.mp h
  obtain ⟨_, start, _, hfree, hmatch, -⟩ := matches_follow.mp hmatch
  obtain ⟨hstart, hmatch, hend⟩ := matches_whole.mp hmatch
  obtain ⟨_, last, _, hevery, hending, -⟩ := matches_follow.mp hmatch
  obtain ⟨_, first, _, hwords, hnumber, -⟩ := matches_follow.mp hevery
  have hread : start.Reads ("every".toList ++ [' ']) first := (matches_text.mp hwords).2
  obtain ⟨gap, hword, hspace⟩ := hread.exists_mid
  have hgap : gap.atEdge = true :=
    Vocabulary.atEdge_between (d := 'y') (e := ' ') hword hspace rfl rfl (by decide)
  obtain ⟨ds, hds, hdigits, hlength, -⟩ := matches_number.mp hnumber
  have hleft : first.behind.head?.any Text.isDigit = false := by
    rw [hspace.behind]
    rfl
  have hright := Vocabulary.any_isDigit_of_optional_ending hnumber hending hend
  have hne : ds ≠ [] := List.ne_nil_of_length_pos hlength.1
  exact ⟨start, gap, first, last, ds, hfree.text_eq, ⟨hstart, hword, hgap⟩, hspace,
    ⟨hds, hne, hdigits, hleft, hright⟩, hlength.2⟩

/-- Where the matcher for January alone answers, the one for a named month does. -/
theorem SingleDate.namedMonth?_isSome (h : (januaryOnly? s).isSome = true) :
    (namedMonth? s).isSome = true := by
  have hoccurs : Vocabulary.januaryOnly.occursIn s = true := by
    by_contra hnone
    rw [januaryOnly?, if_neg hnone] at h
    cases h
  rw [namedMonth?, Option.isSome_map]
  exact Vocabulary.first?_monthWord_isSome (Vocabulary.monthWord_of_januaryOnly hoccurs)

namespace Rule

open SingleDate

private theorem pattern_ofText_ne_january_only (t : List Char) : (ofText t).pattern ≠ "january_only" := by
  intro hpattern
  obtain ⟨hreaches, hanswer⟩ := (pattern_ofText_eq_iff
    (m := ("january_only", januaryOnly?)) (by simp [matchers]) t).mp hpattern
  have hnone : namedMonth? (Text.normalForm t) = none :=
    hreaches.earlier ("named_month", namedMonth?) (by simp [matchers, List.takeWhile])
  have hsome := namedMonth?_isSome (Option.isSome_iff_exists.mpr ⟨_, hanswer⟩)
  rw [hnone] at hsome
  cases hsome

private theorem holdsEveryNumber_of_pattern_ofText {t : List Char}
    (h : (ofText t).pattern = "nth_of_every_month") : HoldsEveryNumber (Text.normalForm t) := by
  obtain ⟨hreaches, hanswer⟩ := (pattern_ofText_eq_iff
    (m := ("nth_of_every_month", nthOfEveryMonth?)) (by simp [matchers]) t).mp h
  obtain ⟨day, hday, -⟩ := Option.map_eq_some_iff.mp hanswer
  obtain ⟨hfirst, -⟩ := Option.filter_eq_some_iff.mp hday
  obtain ⟨ns, hsearch, -⟩ := Option.bind_eq_some_iff.mp hfirst
  obtain ⟨here, there, htext, hmatch⟩ := matches_of_search hsearch
  cases matches_either.mp hmatch with
  | inl hmonth =>
    -- The text would have been monthly.
    have hmonthly := Vocabulary.monthly_of_dayOfEveryMonth
      (occursIn_iff.mpr ⟨here, ns, there, htext, hmonth⟩)
    have hnone := (find?_eq_singleDate_iff.mp hreaches.entry).1 Vocabulary.monthly
      (by simp [Vocabulary.recurrences])
    rw [hnone] at hmonthly
    cases hmonthly
  | inr hevery => exact htext ▸ holdsEveryNumber_of_everyDayNumber hevery

/-- A named month answers wherever January alone does, and a day number of every month is monthly, so
that the one decides no text and the other only those with a number after "every". -/
theorem shadowed_matchers_decide (s t : List Char) :
    ((januaryOnly? s).isSome = true → (namedMonth? s).isSome = true) ∧
      (Vocabulary.dayOfEveryMonth.occursIn s = true → RuleEntry.monthly.applies s = true) ∧
      (ofText t).pattern ≠ "january_only" ∧
      ((ofText t).pattern = "nth_of_every_month" → HoldsEveryNumber (Text.normalForm t)) :=
  ⟨namedMonth?_isSome, Vocabulary.monthly_of_dayOfEveryMonth, pattern_ofText_ne_january_only t,
    holdsEveryNumber_of_pattern_ofText⟩

/-- Both shadowed phrases in one text, and a text that the second of the matchers decides. -/
theorem shadowed_matchers_decide_every_fifth :
    let s := "january only, then 5th of every month".toList
    let t := "every 5th".toList
    ((januaryOnly? s).isSome = true ∧ Vocabulary.dayOfEveryMonth.occursIn s = true ∧
        (ofText t).pattern = "nth_of_every_month") ∧
      (namedMonth? s).isSome = true ∧ RuleEntry.monthly.applies s = true ∧
      HoldsEveryNumber (Text.normalForm t) := by
  intro s t
  obtain ⟨hnamed, hmonthly, -, hevery⟩ := shadowed_matchers_decide s t
  have hfound : (januaryOnly? s).isSome = true ∧ Vocabulary.dayOfEveryMonth.occursIn s = true ∧
      (ofText t).pattern = "nth_of_every_month" := by
    decide +kernel
  exact ⟨hfound, hnamed hfound.1, hmonthly hfound.2.1, hevery hfound.2.2⟩

end Rule

end RuleCalendar
