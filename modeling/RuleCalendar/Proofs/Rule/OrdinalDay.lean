import RuleCalendar.Proofs.Date.Spelling
import RuleCalendar.Proofs.Pattern.Places
import RuleCalendar.Rule.Reading

/-!
# Ordinal numbers in digits

Of the ordinal numbers in digits that a text holds as words of their own, only the first is ever
read. Main statement: the first of them that can be a day of a month is the day number of the text,
unless one stands before it that cannot; then the day number is looked for in phrases and after
words that introduce one, as if the text held no ordinal number.
-/

namespace RuleCalendar

open Pattern

variable {here there : Cursor} {ns : List Int} {m n : Int} {s : List Char}

/-- An ordinal number of one or two digits stands at the place, as a word of its own; `n` is what its
digits are worth. -/
inductive Cursor.HasOrdinal (here : Cursor) : Int → Prop
  | intro {ds rest : List Char} {ending : String}
    (hahead : here.ahead = ds ++ ending.toList ++ rest)
    (hdigits : ∀ c ∈ ds, Text.isDigit c = true) (hlength : 1 ≤ ds.length ∧ ds.length ≤ 2)
    (hending : ending ∈ Date.ordinalEndings)
    (hbefore : here.behind.head?.any Text.isWord = false)
    (hafter : rest.head?.any Text.isWord = false) :
    here.HasOrdinal (Text.digitsValue 0 ds : Int)

namespace Date

/-- The endings of ordinal numbers begin and end with letters. -/
theorem any_of_mem_ordinalEndings {ending : String} (h : ending ∈ ordinalEndings) :
    ending.toList ≠ [] ∧ ending.toList.head?.any Text.isDigit = false ∧
      ending.toList.head?.any Text.isWord = true ∧
      ending.toList.getLast?.any Text.isWord = true := by
  have hall : ∀ ending ∈ ordinalEndings, ending.toList ≠ [] ∧
      ending.toList.head?.any Text.isDigit = false ∧
      ending.toList.head?.any Text.isWord = true ∧
      ending.toList.getLast?.any Text.isWord = true := by
    decide
  exact hall ending h

end Date

namespace Vocabulary

/-- The pattern for ordinal numbers in digits matches where one stands, and reads its digits. -/
theorem exists_matches_suffixedDay_iff :
    (∃ there, suffixedDay.Matches here ns there) ↔ ∃ n, ns = [n] ∧ here.HasOrdinal n := by
  have hedges {ds : List Char} {ending : String} (hdigits : ∀ c ∈ ds, Text.isDigit c = true)
      (hlength : 1 ≤ ds.length) (hending : ending ∈ Date.ordinalEndings) {there : Cursor}
      (hread : here.Reads (ds ++ ending.toList) there) :
      (here.atEdge = true ↔ here.behind.head?.any Text.isWord = false) ∧
        (there.atEdge = true ↔ there.ahead.head?.any Text.isWord = false) := by
    have hds : ds ≠ [] := List.ne_nil_of_length_pos hlength
    obtain ⟨hne, -, -, hword⟩ := Date.any_of_mem_ordinalEndings hending
    constructor
    · apply hread.atEdge_start_iff
      rw [List.head?_append_of_ne_nil _ hds]
      exact (Text.any_isWord_of_isDigit hds hdigits).1
    · apply hread.atEdge_end_iff
      rwa [List.getLast?_append_of_ne_nil _ hne]
  constructor
  · rintro ⟨there, hmatch⟩
    obtain ⟨hstart, hmatch, hend⟩ := matches_whole.mp hmatch
    obtain ⟨ks, mid, ms, hnumber, hending, rfl⟩ := matches_follow.mp hmatch
    obtain ⟨ds, hds, hdigits, hlength, rfl⟩ := matches_number.mp hnumber
    obtain ⟨rfl, ending, hending, hread⟩ := matches_oneOfTexts.mp hending
    have hread := hds.trans hread
    obtain ⟨hbefore, hafter⟩ := hedges hdigits hlength.1 hending hread
    exact ⟨_, rfl, .intro hread.ahead hdigits hlength hending (hbefore.mp hstart) (hafter.mp hend)⟩
  · rintro ⟨n, rfl, hordinal⟩
    cases hordinal with
    | @intro ds rest ending hahead hdigits hlength hending hbefore hafter =>
      have hread : here.Reads (ds ++ ending.toList)
          ⟨(ds ++ ending.toList).reverse ++ here.behind, rest⟩ := ⟨hahead, rfl⟩
      obtain ⟨hstart, hend⟩ := hedges hdigits hlength.1 hending hread
      obtain ⟨mid, hds, hsuffix⟩ := hread.exists_mid
      have hmatch : (dayNumber ++ ordinalEnding).Matches here _ _ :=
        matches_follow.mpr ⟨_, mid, [], matches_number.mpr ⟨ds, hds, hdigits, hlength, rfl⟩,
          matches_oneOfTexts.mpr ⟨rfl, ending, hending, hsuffix⟩, rfl⟩
      exact ⟨_, matches_whole.mpr ⟨hstart.mpr hbefore, hmatch, hend.mpr hafter⟩⟩

end Vocabulary

/-- At one place there is one ordinal number at most. -/
theorem Cursor.HasOrdinal.eq (hm : here.HasOrdinal m) (hn : here.HasOrdinal n) : m = n := by
  have hvalue {n : Int} (h : here.HasOrdinal n) :
      n = Text.digitsValue 0 (here.ahead.takeWhile Text.isDigit) := by
    cases h with
    | @intro ds rest ending hahead hdigits _ hending _ _ =>
      obtain ⟨hne, hstop, -⟩ := Date.any_of_mem_ordinalEndings hending
      have hread : here.Reads ds ⟨ds.reverse ++ here.behind, ending.toList ++ rest⟩ :=
        ⟨by rw [hahead, List.append_assoc], rfl⟩
      rw [hread.takeWhile_eq hdigits (by rwa [List.head?_append_of_ne_nil _ hne])]
  rw [hvalue hm, hvalue hn]

namespace Vocabulary

private theorem run_suffixedDay_eq_nil_iff :
    suffixedDay.run here = [] ↔ ∀ n, ¬ here.HasOrdinal n := by
  rw [List.eq_nil_iff_forall_not_mem]
  constructor
  · intro hnone n hordinal
    obtain ⟨there, hmatch⟩ := exists_matches_suffixedDay_iff.mpr ⟨n, rfl, hordinal⟩
    exact hnone _ hmatch
  · rintro hnone ⟨ns, there⟩ hmatch
    obtain ⟨n, -, hordinal⟩ := exists_matches_suffixedDay_iff.mp ⟨there, hmatch⟩
    exact hnone n hordinal

/-- The number that is read is that of the first ordinal number in digits. -/
theorem first?_suffixedDay_eq_some_iff : suffixedDay.first? s = some n ↔
    ∃ here : Cursor, here.text = s ∧ here.HasOrdinal n ∧
      ∀ earlier : Cursor, earlier.Precedes here → ∀ m, ¬ earlier.HasOrdinal m := by
  rw [first?, Option.bind_eq_some_iff]
  simp only [search_eq_some_iff, run_suffixedDay_eq_nil_iff]
  constructor
  · rintro ⟨ns, ⟨here, htext, hrun, hearlier⟩, hhead⟩
    obtain ⟨⟨_, there⟩, hmem, rfl⟩ := Option.map_eq_some_iff.mp hrun
    obtain ⟨n', rfl, hordinal⟩ :=
      exists_matches_suffixedDay_iff.mp ⟨there, List.mem_of_head? hmem⟩
    obtain rfl := Option.some.inj hhead
    exact ⟨here, htext, hordinal, hearlier⟩
  · rintro ⟨here, htext, hordinal, hearlier⟩
    obtain ⟨there, hmatch⟩ := exists_matches_suffixedDay_iff.mpr ⟨n, rfl, hordinal⟩
    cases hrun : suffixedDay.run here with
    | nil =>
      rw [Matches, hrun] at hmatch
      cases hmatch
    | cons r rs =>
      obtain ⟨m, hm, hordinal'⟩ :=
        exists_matches_suffixedDay_iff.mp ⟨r.2, by rw [Matches, hrun]; exact List.mem_cons_self⟩
      obtain rfl := hordinal'.eq hordinal
      exact ⟨[m], ⟨here, htext, by rw [hrun, ← hm]; rfl, hearlier⟩, rfl⟩

end Vocabulary

namespace Reading

/-- The first ordinal number in digits that can be a day of a month is the day number of its text,
unless one stands before it that cannot; then the day number is that of a phrase, or else one that
is introduced. -/
theorem day?_of_hasOrdinal (hordinal : here.HasOrdinal n) (hday : isDayNumber n = true)
    (hfirst : ∀ earlier : Cursor, earlier.Precedes here →
      ∀ m, earlier.HasOrdinal m → isDayNumber m = false) :
    ((∀ earlier : Cursor, earlier.Precedes here → ∀ m, ¬ earlier.HasOrdinal m) →
      day? here.text = some n) ∧
    ((∃ earlier : Cursor, earlier.Precedes here ∧ ∃ m, earlier.HasOrdinal m) →
      day? here.text = (keywordDay? here.text <|> validDay? Vocabulary.introducedDay here.text)) := by
  constructor
  · intro hnone
    have hsearch : Vocabulary.suffixedDay.first? here.text = some n :=
      Vocabulary.first?_suffixedDay_eq_some_iff.mpr ⟨here, rfl, hordinal, hnone⟩
    rw [day?, validDay?, hsearch, Option.filter_some_pos hday]
    rfl
  · rintro ⟨earlier, hprecedes, m, hm⟩
    have hinvalid : validDay? Vocabulary.suffixedDay here.text = none := by
      rw [validDay?, Option.filter_eq_none_iff]
      intro k hk
      obtain ⟨first, htext, hordinal', hnone⟩ := Vocabulary.first?_suffixedDay_eq_some_iff.mp hk
      -- The first ordinal number does not come after the one at the earlier place.
      have hle : first.behind.length ≤ earlier.behind.length := by
        by_contra hlt
        exact hnone earlier ⟨hprecedes.text.trans htext.symm, by omega⟩ m hm
      have hlt := hprecedes.lt
      rw [hfirst first ⟨htext, by omega⟩ k hordinal']
      exact Bool.false_ne_true
    rw [day?, hinvalid]
    rfl

/-- The fifteenth is read where no other ordinal number stands before it. -/
theorem day?_due_fifteenth :
    let here : Cursor := ⟨"due ".toList.reverse, "15th, above the 45th percentile".toList⟩
    (here.HasOrdinal 15 ∧ isDayNumber 15 = true ∧ ∀ earlier : Cursor, earlier.Precedes here →
      ∀ m, earlier.HasOrdinal m → isDayNumber m = false) ∧
    day? "due 15th, above the 45th percentile".toList = some 15 := by
  intro here
  have hordinal : here.HasOrdinal 15 :=
    @Cursor.HasOrdinal.intro here "15".toList ", above the 45th percentile".toList "th" rfl
      (List.all_eq_true.mp rfl) (by decide) (by decide) rfl rfl
  have hplaces : ∀ e ∈ Cursor.places here.text, e.behind.length < here.behind.length →
      Vocabulary.suffixedDay.run e = [] := by
    decide +kernel
  have hnone : ∀ earlier : Cursor, earlier.Precedes here → ∀ m, ¬ earlier.HasOrdinal m := by
    intro earlier hprecedes
    exact Vocabulary.run_suffixedDay_eq_nil_iff.mp
      (hplaces earlier (Cursor.mem_places.mpr hprecedes.text) hprecedes.lt)
  have hfirst : ∀ earlier : Cursor, earlier.Precedes here →
      ∀ m, earlier.HasOrdinal m → isDayNumber m = false := by
    intro earlier hprecedes m hm
    exact absurd hm (hnone earlier hprecedes m)
  exact ⟨⟨hordinal, rfl, hfirst⟩, (day?_of_hasOrdinal hordinal rfl hfirst).1 hnone⟩

/-- The first ordinal number that can be a day of a month is not always read. -/
theorem exists_day?_ne_ordinal : ∃ (here : Cursor) (n : Int),
    here.HasOrdinal n ∧ isDayNumber n = true ∧
      (∀ earlier : Cursor, earlier.Precedes here →
        ∀ m, earlier.HasOrdinal m → isDayNumber m = false) ∧
      day? here.text ≠ some n := by
  let here : Cursor := ⟨"45th percentile, due ".toList.reverse, "15th".toList⟩
  have hordinal : here.HasOrdinal 15 :=
    @Cursor.HasOrdinal.intro here "15".toList [] "th" rfl
      (List.all_eq_true.mp rfl) (by decide) (by decide) rfl rfl
  have hplaces : ∀ e ∈ Cursor.places here.text, e.behind.length < here.behind.length →
      ∀ r ∈ Vocabulary.suffixedDay.run e, r.1 = [45] := by
    decide +kernel
  refine ⟨here, 15, hordinal, rfl, ?_, by decide +kernel⟩
  intro earlier hprecedes m hm
  obtain ⟨there, hmatch⟩ := Vocabulary.exists_matches_suffixedDay_iff.mpr ⟨m, rfl, hm⟩
  have hread := hplaces earlier (Cursor.mem_places.mpr hprecedes.text) hprecedes.lt _ hmatch
  obtain rfl : m = 45 := List.head_eq_of_cons_eq hread
  rfl

end Reading

end RuleCalendar
