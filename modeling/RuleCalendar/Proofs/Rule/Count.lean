import RuleCalendar.Proofs.Rule.OrdinalDay
import RuleCalendar.Proofs.Rule.Phrase

/-!
# Numbers that count

In "every 3 weeks" the number counts weeks. Main statement: of a text in which every number counts
days, weeks, months or years like this, no combination of a day number and a shift and no day number
of every month is read, but a bare day still is, the least number from 1 to 31 that is written as a
plain decimal, and failing that a number after "runs every".
-/

namespace RuleCalendar

open Pattern

variable {here mid there : Cursor} {ns : List Int} {s ds : List Char}

/-! ### Runs of digits -/

namespace Cursor

/-- Digits between two places of a text that no further digit stands beside. -/
structure IsRun (here : Cursor) (ds : List Char) (there : Cursor) : Prop where
  reads : here.Reads ds there
  ne_nil : ds ≠ []
  digits : ∀ c ∈ ds, Text.isDigit c = true
  left : here.behind.head?.any Text.isDigit = false
  right : there.ahead.head?.any Text.isDigit = false

/-- Digits between two edges are a run. -/
theorem isRun_of_atEdge (hread : here.Reads ds there) (hne : ds ≠ [])
    (hdigits : ∀ c ∈ ds, Text.isDigit c = true) (hstart : here.atEdge = true)
    (hend : there.atEdge = true) : here.IsRun ds there := by
  obtain ⟨hfirst, hlast⟩ := Text.any_isWord_of_isDigit hne hdigits
  rw [hread.atEdge_start_iff hfirst] at hstart
  rw [hread.atEdge_end_iff hlast] at hend
  exact ⟨hread, hne, hdigits, Text.any_isDigit_of_any_isWord hstart,
    Text.any_isDigit_of_any_isWord hend⟩

/-- A digit that no other follows is the last of a run. -/
theorem exists_isRun_of_behind (hbehind : there.behind.head?.any Text.isDigit = true)
    (hahead : there.ahead.head?.any Text.isDigit = false) :
    ∃ (here : Cursor) (ds : List Char), here.IsRun ds there := by
  -- The run goes back as far as there are digits behind.
  let rest := there.behind.dropWhile Text.isDigit
  let ds := there.behind.takeWhile Text.isDigit
  have hsplit : ds ++ rest = there.behind := List.takeWhile_append_dropWhile
  have hne : ds ≠ [] := by
    intro hnil
    obtain ⟨c, hc, hdigit⟩ := (Option.any_eq_true _ _).mp hbehind
    obtain ⟨behind, hcons⟩ := List.head?_eq_some_iff.mp hc
    simp only [ds, hcons, List.takeWhile_cons_of_pos hdigit, reduceCtorEq] at hnil
  have hleft : rest.head?.any Text.isDigit = false := Text.any_head?_dropWhile _ _
  refine ⟨⟨rest, ds.reverse ++ there.ahead⟩, ds.reverse, ⟨rfl, ?_⟩, ?_, ?_, hleft, hahead⟩
  · rw [List.reverse_reverse, hsplit]
  · simpa using hne
  · intro c hc
    exact List.mem_takeWhile_imp (List.mem_reverse.mp hc)

/-- After digits, a digit stands behind. -/
theorem Reads.any_isDigit_behind (h : here.Reads ds there) (hne : ds ≠ [])
    (hdigits : ∀ c ∈ ds, Text.isDigit c = true) :
    there.behind.head?.any Text.isDigit = true := by
  rw [h.behind, List.head?_append_of_ne_nil _ (List.reverse_ne_nil_iff.mpr hne), List.head?_reverse,
    List.getLast?_eq_some_getLast hne]
  exact hdigits _ (List.getLast_mem hne)

/-- The place after the digits ahead. -/
def afterDigits (here : Cursor) : Cursor :=
  ⟨(here.ahead.takeWhile Text.isDigit).reverse ++ here.behind, here.ahead.dropWhile Text.isDigit⟩

/-- A run that begins at a place holds all the digits ahead. -/
theorem IsRun.eq_afterDigits (h : here.IsRun ds there) :
    there = here.afterDigits ∧ here.ahead.head?.any Text.isDigit = true := by
  have hds := h.reads.takeWhile_eq h.digits h.right
  have hahead : ds ++ there.ahead = ds ++ here.ahead.dropWhile Text.isDigit := by
    rw [← h.reads.ahead, ← hds, List.takeWhile_append_dropWhile]
  constructor
  · rw [afterDigits, hds, ← List.append_cancel_left hahead, ← h.reads.behind]
  · rw [h.reads.ahead, List.head?_append_of_ne_nil _ h.ne_nil,
      List.head?_eq_some_head h.ne_nil]
    exact h.digits _ (List.head_mem h.ne_nil)

end Cursor

/-- The text holds the digits as a run. -/
def HoldsRun (s ds : List Char) : Prop :=
  ∃ here there : Cursor, here.text = s ∧ here.IsRun ds there

/-! ### Counts -/

namespace Vocabulary

/-- A space and a word for days, weeks, months or years, after a number that counts them. -/
def countedUnit : Pattern :=
  " " ++ (oneOfTexts ["day", "week", "month", "year"] ++ optional "s") ++ edge

/-- A unit begins with a space and a letter that is not the first of "of". -/
theorem ahead_of_countedUnit (h : countedUnit.Matches here ns there) :
    ∃ c rest, here.ahead = ' ' :: c :: rest ∧ c ≠ 'o' := by
  obtain ⟨_, _, _, hunit, -, -⟩ := matches_follow.mp h
  obtain ⟨_, _, _, hspace, hword, -⟩ := matches_follow.mp hunit
  obtain ⟨_, last, _, hword, -, -⟩ := matches_follow.mp hword
  obtain ⟨-, hspace⟩ := matches_text.mp hspace
  obtain ⟨-, word, hmem, hword⟩ := matches_oneOfTexts.mp hword
  have hfirst : ∀ word ∈ ["day", "week", "month", "year"],
      ∃ c rest, word.toList = c :: rest ∧ c ≠ 'o' := by
    simp only [List.forall_mem_cons]
    exact ⟨⟨'d', _, rfl, by decide⟩, ⟨'w', _, rfl, by decide⟩, ⟨'m', _, rfl, by decide⟩,
      ⟨'y', _, rfl, by decide⟩, nofun⟩
  obtain ⟨c, rest, hc, hne⟩ := hfirst word hmem
  refine ⟨c, rest ++ last.ahead, ?_, hne⟩
  rw [hspace.ahead, hword.ahead, hc]
  rfl

/-- A day number ends after a digit, and where an edge is, in front of none. -/
theorem any_isDigit_of_dayNumber (h : dayNumber.Matches here ns there) :
    there.behind.head?.any Text.isDigit = true ∧
      (there.atEdge = true → there.ahead.head?.any Text.isDigit = false) := by
  obtain ⟨ds, hread, hdigits, hlength, -⟩ := matches_number.mp h
  have hne : ds ≠ [] := List.ne_nil_of_length_pos hlength.1
  refine ⟨hread.any_isDigit_behind hne hdigits, ?_⟩
  intro hedge
  rw [hread.atEdge_end_iff (Text.any_isWord_of_isDigit hne hdigits).2] at hedge
  exact Text.any_isDigit_of_any_isWord hedge

end Vocabulary

/-- Digits between two places count days, weeks, months or years: the word "every" stands before them
and the unit after them. -/
structure IsCount (here there : Cursor) : Prop where
  every : ∃ start : Cursor, start.atEdge = true ∧ start.Reads "every ".toList here
  unit : ∃ ns stop, Vocabulary.countedUnit.Matches there ns stop

/-- Every run of digits of the text counts days, weeks, months or years. -/
def CountsOnly (s : List Char) : Prop :=
  ∀ (here : Cursor) (ds : List Char) (there : Cursor), here.text = s → here.IsRun ds there →
    IsCount here there

/-- Whether every run of digits of a text counts can be found out at its places. -/
theorem countsOnly_of_places (h : ∀ here ∈ Cursor.places s,
    here.behind.head?.any Text.isDigit = false → here.ahead.head?.any Text.isDigit = true →
      ("every ".toList.reverse.isPrefixOf here.behind = true ∧
        (⟨here.behind.drop 6, "every ".toList ++ here.ahead⟩ : Cursor).atEdge = true) ∧
      Vocabulary.countedUnit.run here.afterDigits ≠ []) : CountsOnly s := by
  intro here ds there htext hrun
  obtain ⟨rfl, hdigit⟩ := hrun.eq_afterDigits
  obtain ⟨⟨hevery, hedge⟩, hunit⟩ := h here (Cursor.mem_places.mpr htext) hrun.left hdigit
  obtain ⟨rest, hrest⟩ := List.isPrefixOf_iff_prefix.mp hevery
  obtain ⟨⟨ns, stop⟩, hmatch⟩ := List.exists_mem_of_ne_nil _ hunit
  refine ⟨⟨_, hedge, rfl, ?_⟩, ⟨ns, stop, hmatch⟩⟩
  rw [← hrest]
  rfl

namespace CountsOnly

variable (h : CountsOnly s)
include h

/-- After a last digit there stands a unit. -/
theorem unit (htext : there.text = s) (hbehind : there.behind.head?.any Text.isDigit = true)
    (hahead : there.ahead.head?.any Text.isDigit = false) :
    ∃ ns stop, Vocabulary.countedUnit.Matches there ns stop := by
  obtain ⟨here, ds, hrun⟩ := Cursor.exists_isRun_of_behind hbehind hahead
  exact (h here ds there (hrun.reads.text_eq ▸ htext) hrun).unit

/-- No ending of an ordinal number follows a digit. -/
theorem eq_of_optional_ending (htext : mid.text = s)
    (hbehind : mid.behind.head?.any Text.isDigit = true)
    (hmatch : (optional Vocabulary.ordinalEnding).Matches mid ns there) : ns = [] ∧ there = mid := by
  cases matches_optional.mp hmatch with
  | inr hstay => exact hstay
  | inl hending =>
    obtain ⟨-, ending, hmem, hread⟩ := matches_oneOfTexts.mp hending
    obtain ⟨hne, hdigit, hword, -⟩ := Date.any_of_mem_ordinalEndings hmem
    have hhead : mid.ahead.head? = ending.toList.head? := by
      rw [hread.ahead, List.head?_append_of_ne_nil _ hne]
    obtain ⟨_, _, hunit⟩ := h.unit htext hbehind (by rw [hhead, hdigit])
    obtain ⟨_, _, hahead, -⟩ := Vocabulary.ahead_of_countedUnit hunit
    rw [← hhead, hahead] at hword
    have hspace : Text.isWord ' ' = false := by decide
    exact absurd (hspace.symm.trans hword) Bool.false_ne_true

/-- No combination of a day number and a shift is read. -/
theorem shiftCombination?_eq_none : SingleDate.shiftCombination? s = none := by
  have htokens : ∀ c ∈ Vocabulary.shiftCombinations, ∃ d, c.1.toList = d ++ ['t', 'h'] ∧
      d.getLast?.any Text.isDigit = true := by
    simp only [Vocabulary.shiftCombinations, List.forall_mem_cons]
    exact ⟨⟨['9'], rfl, rfl⟩, ⟨['1', '2'], rfl, rfl⟩, ⟨['1', '3'], rfl, rfl⟩, nofun⟩
  rw [SingleDate.shiftCombination?, Option.map_eq_none_iff, List.find?_eq_none]
  intro c hc hholds
  rw [Bool.and_eq_true, containsPhrase_iff] at hholds
  obtain ⟨l, r, hs⟩ := hholds.1
  obtain ⟨d, htoken, hdigit⟩ := htokens c hc
  -- The digits of the token are followed by its ending, not by a unit.
  let there : Cursor := ⟨(l ++ d).reverse, 't' :: 'h' :: r⟩
  have htext : there.text = s := by simp [there, Cursor.text, ← hs, htoken]
  have hbehind : there.behind.head?.any Text.isDigit = true := by
    have hne : d ≠ [] := by
      rintro rfl
      cases hdigit
    rwa [List.head?_reverse, List.getLast?_append_of_ne_nil _ hne]
  obtain ⟨_, _, hunit⟩ := h.unit htext hbehind rfl
  obtain ⟨_, _, hahead, -⟩ := Vocabulary.ahead_of_countedUnit hunit
  cases hahead

/-- "of every month" does not follow a number that counts. -/
theorem not_matches_dayOfEveryMonth (htext : here.text = s) :
    ¬ Vocabulary.dayOfEveryMonth.Matches here ns there := by
  intro hmatch
  obtain ⟨-, hmatch, -⟩ := matches_whole.mp hmatch
  obtain ⟨_, last, _, hday, hof, -⟩ := matches_follow.mp hmatch
  obtain ⟨_, mid, _, hnumber, hending, -⟩ := matches_follow.mp hday
  have hmid : mid.text = s := hnumber.text_eq.trans htext
  obtain ⟨hbehind, -⟩ := Vocabulary.any_isDigit_of_dayNumber hnumber
  obtain ⟨-, rfl⟩ := h.eq_of_optional_ending hmid hbehind hending
  obtain ⟨-, hof⟩ := matches_text.mp hof
  obtain ⟨_, _, hunit⟩ := h.unit hmid hbehind (by rw [hof.ahead]; rfl)
  obtain ⟨c, rest, hahead, hne⟩ := Vocabulary.ahead_of_countedUnit hunit
  rw [hof.ahead] at hahead
  exact absurd (List.head_eq_of_cons_eq (List.tail_eq_of_cons_eq hahead)).symm hne

/-- What is found after "every" is refused for the unit after it. -/
theorem not_matches_everyDayNumber (htext : here.text = s) :
    ¬ Vocabulary.everyDayNumber.Matches here ns there := by
  intro hmatch
  obtain ⟨_, last, _, hmatch, hahead, -⟩ := matches_follow.mp hmatch
  obtain ⟨_, start, _, hfree, hmatch, -⟩ := matches_follow.mp hmatch
  obtain ⟨-, hmatch, hend⟩ := matches_whole.mp hmatch
  obtain ⟨_, mid, _, hevery, hending, -⟩ := matches_follow.mp hmatch
  have hmid : mid.text = s := (hevery.text_eq.trans hfree.text_eq).trans htext
  obtain ⟨_, _, _, -, hnumber, -⟩ := matches_follow.mp hevery
  obtain ⟨hbehind, hafter⟩ := Vocabulary.any_isDigit_of_dayNumber hnumber
  -- Without an ending, the number ends where the pattern looks ahead for a unit.
  obtain ⟨-, rfl⟩ := h.eq_of_optional_ending hmid hbehind hending
  obtain ⟨_, _, hunit⟩ := h.unit hmid hbehind (hafter hend)
  obtain ⟨hempty, -⟩ := matches_unlessAhead.mp hahead
  exact absurd hunit (List.eq_nil_iff_forall_not_mem.mp (List.isEmpty_iff.mp hempty) _)

/-- No day number of every month is found. -/
theorem search_nthOfEveryMonth : Vocabulary.nthOfEveryMonth.search s = none := by
  cases hsearch : Vocabulary.nthOfEveryMonth.search s with
  | none => rfl
  | some ns =>
    obtain ⟨here, there, htext, hmatch⟩ := matches_of_search hsearch
    cases matches_either.mp hmatch with
    | inl hmonth => exact absurd hmonth (h.not_matches_dayOfEveryMonth htext)
    | inr hevery => exact absurd hevery (h.not_matches_everyDayNumber htext)

/-- What is read after "runs every" is a run of digits. -/
theorem exists_isRun_of_runsEvery (htext : here.text = s)
    (hmatch : Vocabulary.runsEvery.Matches here ns there) : ∃ (start : Cursor) (ds : List Char),
      here.Reads "runs every ".toList start ∧ start.IsRun ds there ∧
        ns = [(Text.digitsValue 0 ds : Int)] := by
  obtain ⟨-, hmatch, hend⟩ := matches_whole.mp hmatch
  obtain ⟨_, mid, _, hcount, hending, rfl⟩ := matches_follow.mp hmatch
  obtain ⟨_, start, _, hwords, hnumber, rfl⟩ := matches_follow.mp hcount
  obtain ⟨hbehind, hafter⟩ := Vocabulary.any_isDigit_of_dayNumber hnumber
  obtain ⟨rfl, rfl⟩ := h.eq_of_optional_ending (hcount.text_eq.trans htext) hbehind hending
  obtain ⟨ds, hread, hdigits, hlength, rfl⟩ := matches_number.mp hnumber
  obtain ⟨rfl, hruns⟩ := matches_text.mp hwords
  have hleft : start.behind.head?.any Text.isDigit = false := by
    rw [hruns.behind]
    rfl
  exact ⟨start, ds, hruns,
    ⟨hread, List.ne_nil_of_length_pos hlength.1, hdigits, hleft, hafter hend⟩, rfl⟩

/-- A number stands as a word of its own where its decimal is a run of digits. -/
theorem occursIn_bareNumber_iff (n : Nat) :
    (Vocabulary.bareNumber n).occursIn s = true ↔ HoldsRun s (Text.decimal n) := by
  have hdigits : ∀ c ∈ Text.decimal n, Text.isDigit c = true := fun c hc ↦
    Text.isDigit_of_ascii (Text.isDigit_of_mem_decimal hc)
  have hne : Text.decimal n ≠ [] := Nat.toDigits_ne_nil
  rw [occursIn_iff]
  constructor
  · rintro ⟨here, ns, there, htext, hmatch⟩
    obtain ⟨hstart, hmatch, hend⟩ := matches_whole.mp hmatch
    exact ⟨here, there, htext,
      Cursor.isRun_of_atEdge (matches_text.mp hmatch).2 hne hdigits hstart hend⟩
  · rintro ⟨here, there, htext, hrun⟩
    obtain ⟨⟨start, -, hevery⟩, ⟨_, _, hunit⟩⟩ := h here _ there htext hrun
    obtain ⟨hfirst, hlast⟩ := Text.any_isWord_of_isDigit hne hdigits
    obtain ⟨_, _, hahead, -⟩ := Vocabulary.ahead_of_countedUnit hunit
    refine ⟨here, [], there, htext, matches_whole.mpr ⟨?_, matches_text.mpr ⟨rfl, hrun.reads⟩, ?_⟩⟩
    · rw [hrun.reads.atEdge_start_iff hfirst, hevery.behind]
      rfl
    · rw [hrun.reads.atEdge_end_iff hlast, hahead]
      rfl

end CountsOnly

/-- A number that could be a day of a month is written as a run of digits, without zeros before. -/
structure IsPlainCount (s : List Char) (n : Nat) : Prop where
  range : 1 ≤ n ∧ n ≤ 31
  run : HoldsRun s (Text.decimal n)

namespace CountsOnly

variable (h : CountsOnly s)
include h

/-- The bare day is the least number that is a run of digits. -/
theorem bareDay?_eq_some_iff {day : Int} : Reading.bareDay? s = some day ↔
    ∃ n : Nat, day = n ∧ IsPlainCount s n ∧ ∀ m, IsPlainCount s m → n ≤ m := by
  have hascending : (List.range' 1 31).Pairwise fun m n ↦ Int.ofNat m ≤ Int.ofNat n := by
    decide
  have hmem {n : Nat} : n ∈ List.range' 1 31 ↔ 1 ≤ n ∧ n ≤ 31 := by
    rw [List.mem_range'_1]
    omega
  rw [Reading.bareDay?, find?_map_eq_some_iff hascending]
  simp only [h.occursIn_bareNumber_iff, hmem]
  constructor
  · rintro ⟨⟨n, hrange, rfl, hrun⟩, hleast⟩
    refine ⟨n, rfl, ⟨hrange, hrun⟩, ?_⟩
    intro m hm
    by_contra hlt
    exact hleast m hm.range (Int.ofNat_lt.mpr (Nat.not_le.mp hlt)) hm.run
  · rintro ⟨n, rfl, hn, hleast⟩
    refine ⟨⟨n, hn.range, rfl, hn.run⟩, ?_⟩
    intro m hrange hlt hrun
    have hle := hleast m ⟨hrange, hrun⟩
    exact absurd (Int.ofNat_lt.mp hlt) (Nat.not_lt.mpr hle)

private theorem not_isPlainCount_of_bareDay? (hnone : Reading.bareDay? s = none) (n : Nat) :
    ¬ IsPlainCount s n := by
  intro hn
  rw [Reading.bareDay?, Option.map_eq_none_iff, List.find?_eq_none] at hnone
  have hrange : n ∈ List.range' 1 31 := by
    rw [List.mem_range'_1]
    have := hn.range
    omega
  exact hnone n hrange ((h.occursIn_bareNumber_iff n).mpr hn.run)

end CountsOnly

/-! ### Rules -/

/-- What is read of a text in which every number counts. -/
structure CountReading (s : List Char) (r : Rule) : Prop where
  /-- No combination of a day number and a shift, and no day number of every month. -/
  pattern : r.pattern ∉ ["shift_combo", "nth_of_every_month"]
  /-- A bare day where a number is a plain count, and then the least of them. -/
  bareDay : ∀ day : Int, r.pattern = "bare_day" ∧ r.day = some day ↔
    SingleDate.Reaches "bare_day" s ∧
      ∃ n : Nat, day = n ∧ IsPlainCount s n ∧ ∀ m, IsPlainCount s m → n ≤ m
  /-- A number after "runs every", where no number is a plain count. -/
  runsEvery : r.pattern = "runs_every" → (∀ n, ¬ IsPlainCount s n) ∧
    ∃ (words start : Cursor) (ds : List Char) (there : Cursor), words.text = s ∧
      words.Reads "runs every ".toList start ∧ start.IsRun ds there ∧
        r.day = some (Text.digitsValue 0 ds : Int)

namespace Rule

open SingleDate

/-- A text in which every number counts days, weeks, months or years still gives one of the numbers
as a day, as a bare day or after "runs every", but in no other way. -/
theorem countReading_ofText {t : List Char} (h : CountsOnly (Text.normalForm t)) :
    CountReading (Text.normalForm t) (ofText t) := by
  generalize hs : Text.normalForm t = s at *
  have hanswer {name : String} (matcher : List Char → Option Rule)
      (hmem : (name, matcher) ∈ matchers) (hpattern : (ofText t).pattern = name) :
      Reaches name s ∧ matcher s = some (ofText t) :=
    hs ▸ (pattern_ofText_eq_iff hmem t).mp hpattern
  refine ⟨?_, ?_, ?_⟩
  · intro hpattern
    rw [List.mem_pair] at hpattern
    obtain hcombination | hnth := hpattern
    · have hfound := (hanswer shiftCombination? (by simp [matchers]) hcombination).2
      rw [h.shiftCombination?_eq_none] at hfound
      cases hfound
    · have hfound := (hanswer nthOfEveryMonth? (by simp [matchers]) hnth).2
      rw [nthOfEveryMonth?, first?, h.search_nthOfEveryMonth] at hfound
      cases hfound
  · intro day
    rw [← h.bareDay?_eq_some_iff]
    constructor
    · rintro ⟨hpattern, hday⟩
      obtain ⟨hreaches, hfound⟩ := hanswer bareDay? (by simp [matchers]) hpattern
      obtain ⟨n, hn, hrule⟩ := Option.map_eq_some_iff.mp hfound
      rw [← hrule] at hday
      exact ⟨hreaches, hn.trans hday⟩
    · rintro ⟨hreaches, hday⟩
      have hfound : bareDay? s = some { onDay "bare_day" day with shift := Reading.shift s } := by
        rw [bareDay?, hday]
        rfl
      rw [ofText_of_reaches (m := ("bare_day", bareDay?)) (by simp [matchers]) (hs ▸ hreaches)
        (hs ▸ hfound)]
      exact ⟨rfl, rfl⟩
  · intro hpattern
    obtain ⟨hreaches, hfound⟩ := hanswer runsEvery? (by simp [matchers]) hpattern
    -- Bare days are tried first, so no number of the text is a plain count.
    have hbare : bareDay? s = none :=
      hreaches.earlier ("bare_day", bareDay?) (by simp [matchers, List.takeWhile])
    refine ⟨h.not_isPlainCount_of_bareDay? (Option.map_eq_none_iff.mp hbare), ?_⟩
    obtain ⟨n, hn, hrule⟩ := Option.map_eq_some_iff.mp hfound
    obtain ⟨hfirst, -⟩ := Option.filter_eq_some_iff.mp hn
    obtain ⟨ns, hsearch, hhead⟩ := Option.bind_eq_some_iff.mp hfirst
    obtain ⟨words, there, htext, hmatch⟩ := matches_of_search hsearch
    obtain ⟨start, ds, hwords, hrun, rfl⟩ := h.exists_isRun_of_runsEvery htext hmatch
    obtain rfl := Option.some.inj hhead
    refine ⟨words, start, ds, there, htext, hwords, hrun, ?_⟩
    rw [← hrule]
    rfl

/-- A number of weeks is read as a bare day, or else not at all. -/
theorem countReading_every_three_weeks :
    CountsOnly (Text.normalForm "every 3 weeks".toList) ∧
      CountReading (Text.normalForm "every 3 weeks".toList) (ofText "every 3 weeks".toList) := by
  have h : CountsOnly (Text.normalForm "every 3 weeks".toList) :=
    countsOnly_of_places (by decide +kernel)
  exact ⟨h, countReading_ofText h⟩

/-- A number that counts is taken for a day in both ways. -/
theorem exists_day_of_count :
    (∃ t : List Char, CountsOnly (Text.normalForm t) ∧ (ofText t).pattern = "bare_day" ∧
      ∃ ds, HoldsRun (Text.normalForm t) ds ∧
        (ofText t).day = some (Text.digitsValue 0 ds : Int)) ∧
    (∃ t : List Char, CountsOnly (Text.normalForm t) ∧ (ofText t).pattern = "runs_every" ∧
      ∃ ds, HoldsRun (Text.normalForm t) ds ∧
        (ofText t).day = some (Text.digitsValue 0 ds : Int)) := by
  constructor
  · have hweeks : HoldsRun (Text.normalForm "every 3 weeks".toList) ['3'] :=
      ⟨⟨"every ".toList.reverse, "3 weeks".toList⟩, ⟨"every 3".toList.reverse, " weeks".toList⟩,
        by decide +kernel, ⟨rfl, rfl⟩, by decide, List.all_eq_true.mp rfl, rfl, rfl⟩
    exact ⟨"every 3 weeks".toList, countsOnly_of_places (by decide +kernel), by decide +kernel,
      ['3'], hweeks, by decide +kernel⟩
  · have hdays : HoldsRun (Text.normalForm "runs every 05 days".toList) ['0', '5'] :=
      ⟨⟨"runs every ".toList.reverse, "05 days".toList⟩,
        ⟨"runs every 05".toList.reverse, " days".toList⟩,
        by decide +kernel, ⟨rfl, rfl⟩, by decide, List.all_eq_true.mp rfl, rfl, rfl⟩
    exact ⟨"runs every 05 days".toList, countsOnly_of_places (by decide +kernel),
      by decide +kernel, ['0', '5'], hdays, by decide +kernel⟩

end Rule

end RuleCalendar
