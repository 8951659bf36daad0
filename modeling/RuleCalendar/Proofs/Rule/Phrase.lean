import RuleCalendar.Proofs.Pattern.Places
import RuleCalendar.Proofs.Rule.Answer

/-!
# Phrases inside longer words

The phrases for the first days of a month, and those that go with a shift, are looked for anywhere in
a text, also inside words. Main statement: a text is read by such phrases as the least day that a row
of their table has for it, and holds none of the rows for this day as words of their own just when
each of them has a phrase that a character of a word touches wherever it is found.
-/

namespace RuleCalendar

open Pattern

variable {s : List Char} {phrase : String}

/-- The phrase stands in the text as words of its own. -/
def standsAlone (phrase : String) (s : List Char) : Bool :=
  (whole (text phrase.toList)).occursIn s

/-- Wherever the phrase is found in the text, it is a part of a longer word: a character of a word
stands before it or after it. -/
def IsInside (phrase : String) (s : List Char) : Prop :=
  ∀ l r, s = l ++ phrase.toList ++ r →
    l.getLast?.any Text.isWord = true ∨ r.head?.any Text.isWord = true

/-- A text contains the phrases that are parts of it. -/
theorem containsPhrase_iff : containsPhrase phrase s = true ↔ phrase.toList <:+: s := by
  rw [containsPhrase, occursIn_iff]
  constructor
  · rintro ⟨here, ns, there, rfl, hmatch⟩
    exact (matches_text.mp hmatch).2.isInfix
  · rintro ⟨l, r, rfl⟩
    exact ⟨⟨l.reverse, phrase.toList ++ r⟩, [], ⟨phrase.toList.reverse ++ l.reverse, r⟩,
      by simp [Cursor.text], matches_text.mpr ⟨rfl, rfl, rfl⟩⟩

/-- A phrase that begins and ends with characters of words stands in a text as words of its own, or
is a part of longer words wherever it is found. -/
theorem standsAlone_eq_false_iff (hstart : phrase.toList.head?.any Text.isWord = true)
    (hend : phrase.toList.getLast?.any Text.isWord = true) :
    standsAlone phrase s = false ↔ IsInside phrase s := by
  rw [standsAlone, ← Bool.not_eq_true, occursIn_iff]
  constructor
  · intro hnone l r hs
    by_contra! hfree
    let here : Cursor := ⟨l.reverse, phrase.toList ++ r⟩
    have hread : here.Reads phrase.toList ⟨phrase.toList.reverse ++ l.reverse, r⟩ := ⟨rfl, rfl⟩
    refine hnone ⟨here, [], _, by simp [here, Cursor.text, hs], matches_whole.mpr
      ⟨(hread.atEdge_start_iff hstart).mpr ?_, matches_text.mpr ⟨rfl, hread⟩,
        (hread.atEdge_end_iff hend).mpr ?_⟩⟩
    · rw [List.head?_reverse]
      exact Bool.eq_false_iff.mpr hfree.1
    · exact Bool.eq_false_iff.mpr hfree.2
  · rintro hinside ⟨here, ns, there, htext, hmatch⟩
    obtain ⟨hbefore, hmatch, hafter⟩ := matches_whole.mp hmatch
    have hread := (matches_text.mp hmatch).2
    rw [hread.atEdge_start_iff hstart] at hbefore
    rw [hread.atEdge_end_iff hend] at hafter
    have hs : s = here.behind.reverse ++ phrase.toList ++ there.ahead := by
      rw [← htext, Cursor.text, hread.ahead, List.append_assoc]
    obtain hleft | hright := hinside _ _ hs
    · rw [List.getLast?_reverse, hbefore] at hleft
      cases hleft
    · rw [hafter] at hright
      cases hright

/-! ### Tables of phrases -/

/-- A row of a table of phrases: phrases that a text must hold, and the day that it is then read as. -/
structure PhraseRow where
  phrases : List String
  day : Int

/-- A table of phrases, with the matcher of single dates that goes by it. -/
structure PhraseTable where
  matcher : String × (List Char → Option Rule)
  rows : List PhraseRow

namespace PhraseTable

/-- The phrases for the first days of a month. -/
def dayKeywords : PhraseTable where
  matcher := ("day_keyword", SingleDate.dayKeyword?)
  rows := Vocabulary.dayKeywords.map fun k ↦ ⟨[k.1], k.2⟩

/-- The day numbers that go with a shift. -/
def shiftCombinations : PhraseTable where
  matcher := ("shift_combo", SingleDate.shiftCombination?)
  rows := Vocabulary.shiftCombinations.map fun c ↦ ⟨[c.1, c.2.1], c.2.2.1⟩

/-- The tables of phrases. -/
def all : List PhraseTable := [dayKeywords, shiftCombinations]

variable {table : PhraseTable}

/-- The table reads the text as a day: no other matcher takes the text before, and the day is the least
for which the text holds the phrases of a row. -/
structure ReadsDay (table : PhraseTable) (s : List Char) (day : Int) : Prop where
  reaches : SingleDate.Reaches table.matcher.1 s
  holds : ∃ row ∈ table.rows, row.day = day ∧ ∀ phrase ∈ row.phrases, phrase.toList <:+: s
  least : ∀ row ∈ table.rows, row.day < day → ¬ ∀ phrase ∈ row.phrases, phrase.toList <:+: s

private theorem matcher_mem (h : table ∈ all) : table.matcher ∈ SingleDate.matchers := by
  simp only [all, List.mem_cons, List.not_mem_nil, or_false] at h
  rcases h with rfl | rfl <;> simp [dayKeywords, shiftCombinations, SingleDate.matchers]

/-- The rows of a table stand in the order of their days. -/
theorem pairwise_rows (h : table ∈ all) : table.rows.Pairwise (·.day ≤ ·.day) := by
  have hall : ∀ table ∈ all, (table.rows.map (·.day)).Pairwise (· ≤ ·) := by
    decide
  exact List.pairwise_map.mp (hall table h)

/-- Phrases begin and end with characters of words. -/
theorem any_isWord_of_mem_rows (h : table ∈ all) {row : PhraseRow} (hrow : row ∈ table.rows)
    (hphrase : phrase ∈ row.phrases) : phrase.toList.head?.any Text.isWord = true ∧
      phrase.toList.getLast?.any Text.isWord = true := by
  have hall : ∀ table ∈ all, ∀ phrases ∈ table.rows.map (·.phrases), ∀ phrase ∈ phrases,
      phrase.toList.head?.any Text.isWord = true ∧
        phrase.toList.getLast?.any Text.isWord = true := by
    decide
  exact hall table h _ (List.mem_map_of_mem hrow) phrase hphrase

/-- The matcher of a table answers with the day of the first row whose phrases the text holds. -/
theorem day_matcher (h : table ∈ all) (s : List Char) :
    (table.matcher.2 s).bind (·.day) =
      (table.rows.find? fun row ↦ row.phrases.all (containsPhrase · s)).map (·.day) := by
  simp only [all, List.mem_cons, List.not_mem_nil, or_false] at h
  rcases h with rfl | rfl
  · simp only [dayKeywords, SingleDate.dayKeyword?, Reading.keywordDay?, List.find?_map,
      Function.comp_def, List.all_cons, List.all_nil, Bool.and_true]
    cases Vocabulary.dayKeywords.find? fun k ↦ containsPhrase k.1 s <;> rfl
  · simp only [shiftCombinations, SingleDate.shiftCombination?, List.find?_map,
      Function.comp_def, List.all_cons, List.all_nil, Bool.and_true]
    cases Vocabulary.shiftCombinations.find? fun c ↦
      containsPhrase c.1 s && containsPhrase c.2.1 s <;> rfl

end PhraseTable

/-- In a list in ascending order, the first entry that passes is one with the least value. -/
theorem find?_map_eq_some_iff {α : Type} {f : α → Int} {p : α → Bool} {l : List α} {n : Int}
    (h : l.Pairwise (f · ≤ f ·)) : (l.find? p).map f = some n ↔
      (∃ a ∈ l, f a = n ∧ p a = true) ∧ ∀ a ∈ l, f a < n → ¬ p a = true := by
  induction l with
  | nil => simp
  | cons a l ih =>
    obtain ⟨hle, hl⟩ := List.pairwise_cons.mp h
    by_cases ha : p a = true
    · rw [List.find?_cons_of_pos ha, Option.map_some, Option.some.injEq]
      constructor
      · rintro rfl
        refine ⟨⟨a, List.mem_cons_self, rfl, ha⟩, ?_⟩
        intro b hb hlt
        obtain rfl | hb := List.mem_cons.mp hb
        · omega
        · have := hle b hb
          omega
      · rintro ⟨⟨b, hb, rfl, -⟩, hleast⟩
        have hnot : ¬ f a < f b := fun hlt ↦ hleast a List.mem_cons_self hlt ha
        obtain rfl | hb := List.mem_cons.mp hb
        · rfl
        · have := hle b hb
          omega
    · rw [List.find?_cons_of_neg ha, ih hl]
      simp [ha]

namespace PhraseTable

variable {table : PhraseTable} {t : List Char} {day : Int}

/-- A rule names the matcher of a table and has a day when the table reads its text as this day. -/
theorem pattern_day_iff (h : table ∈ all) :
    (Rule.ofText t).pattern = table.matcher.1 ∧ (Rule.ofText t).day = some day ↔
      table.ReadsDay (Text.normalForm t) day := by
  have hday := day_matcher h (Text.normalForm t)
  have hmem := matcher_mem h
  constructor
  · rintro ⟨hpattern, hruleDay⟩
    obtain ⟨hreaches, hanswer⟩ := (Rule.pattern_ofText_eq_iff hmem t).mp hpattern
    rw [hanswer, Option.bind_some, hruleDay, eq_comm, find?_map_eq_some_iff (pairwise_rows h)]
      at hday
    simp only [List.all_eq_true, containsPhrase_iff] at hday
    exact ⟨hreaches, hday.1, hday.2⟩
  · rintro ⟨hreaches, hholds, hleast⟩
    have hfind : (table.rows.find? fun row ↦
        row.phrases.all (containsPhrase · (Text.normalForm t))).map (·.day) = some day := by
      rw [find?_map_eq_some_iff (pairwise_rows h)]
      simp only [List.all_eq_true, containsPhrase_iff]
      exact ⟨hholds, hleast⟩
    rw [hfind, Option.bind_eq_some_iff] at hday
    obtain ⟨r, hanswer, hruleDay⟩ := hday
    rw [Rule.ofText_of_reaches hmem hreaches hanswer]
    exact ⟨(SingleDate.isAnswer_of_mem hmem hanswer).pattern, hruleDay⟩

/-- A text is read by a table as a day although it holds no row for this day as words of its own, just
when the table reads it as this day and in each row for the day some phrase is only ever a part of a
longer word. -/
theorem misread_iff (h : table ∈ all) (t : List Char) (day : Int) :
    ((Rule.ofText t).pattern = table.matcher.1 ∧ (Rule.ofText t).day = some day) ∧
        ¬ (∃ row ∈ table.rows, row.day = day ∧
          ∀ phrase ∈ row.phrases, standsAlone phrase (Text.normalForm t) = true) ↔
      table.ReadsDay (Text.normalForm t) day ∧
        ∀ row ∈ table.rows, row.day = day →
          ∃ phrase ∈ row.phrases, IsInside phrase (Text.normalForm t) := by
  rw [pattern_day_iff h]
  apply and_congr_right
  intro _
  push Not
  apply forall₂_congr
  intro row hrow
  apply imp_congr_right
  intro _
  constructor
  · rintro ⟨phrase, hphrase, hfalse⟩
    obtain ⟨hstart, hend⟩ := any_isWord_of_mem_rows h hrow hphrase
    exact ⟨phrase, hphrase, (standsAlone_eq_false_iff hstart hend).mp (Bool.eq_false_iff.mpr hfalse)⟩
  · rintro ⟨phrase, hphrase, hinside⟩
    obtain ⟨hstart, hend⟩ := any_isWord_of_mem_rows h hrow hphrase
    exact ⟨phrase, hphrase,
      Bool.eq_false_iff.mp ((standsAlone_eq_false_iff hstart hend).mpr hinside)⟩

/-- The twenty-first is read as the first. -/
theorem misread_twentyFirst :
    let s := Text.normalForm "21st of the month".toList
    dayKeywords ∈ all ∧ dayKeywords.ReadsDay s 1 ∧
      ∀ row ∈ dayKeywords.rows, row.day = 1 → ∃ phrase ∈ row.phrases, IsInside phrase s := by
  have hmem : dayKeywords ∈ all := List.mem_cons_self
  exact ⟨hmem, (misread_iff hmem "21st of the month".toList 1).mp
    ⟨by decide +kernel, by decide +kernel⟩⟩

/-- Both tables take parts of longer words for their phrases. -/
theorem exists_misread :
    (∃ (t : List Char) (day : Int),
      ((Rule.ofText t).pattern = dayKeywords.matcher.1 ∧ (Rule.ofText t).day = some day) ∧
        ¬ ∃ row ∈ dayKeywords.rows, row.day = day ∧
          ∀ phrase ∈ row.phrases, standsAlone phrase (Text.normalForm t) = true) ∧
    (∃ (t : List Char) (day : Int),
      ((Rule.ofText t).pattern = shiftCombinations.matcher.1 ∧ (Rule.ofText t).day = some day) ∧
        ¬ ∃ row ∈ shiftCombinations.rows, row.day = day ∧
          ∀ phrase ∈ row.phrases, standsAlone phrase (Text.normalForm t) = true) := by
  constructor
  · refine ⟨"first offer".toList, 1, ?_⟩
    decide +kernel
  · refine ⟨"19th, if weekend then previous friday".toList, 9, ?_⟩
    decide +kernel

end PhraseTable

end RuleCalendar
