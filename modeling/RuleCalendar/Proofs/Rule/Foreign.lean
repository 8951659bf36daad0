import RuleCalendar.Proofs.Pattern.Words
import RuleCalendar.Proofs.Rule.Phrase
import RuleCalendar.Proofs.Rule.WrittenDate
import RuleCalendar.Proofs.Text.Decimal

/-!
# Texts without words for dates

Main statement: a text without digits that holds none of the words and phrases that days, weeks, months
and years are named by gives a rule that is not understood.
-/

namespace RuleCalendar

open Pattern

variable {s t : List Char}

namespace Vocabulary

/-- The words that days, weeks, months, quarters and years are named by. -/
def keywords : List (List Char) :=
  ["day", "days", "daily", "week", "weeks", "weekly", "weekday", "weekdays", "month", "months",
    "monthly", "biweekly", "fortnightly", "quarter", "quarterly", "semiannual", "semiannually",
    "annual", "annually", "year", "yearly"].map String.toList ++
  (monthNames ++ weekdayNames).map String.toList ++ weekdayNames.map fun n ↦ n.toList ++ ['s']

/-- The phrases that count also inside longer words. -/
def keyPhrases : List String :=
  ["christmas", "new year", "valentine", "halloween", "independence day", "first of", "second of",
    "third of"]

/-- A text in its normal form without digits and without words for dates. -/
structure IsForeign (s : List Char) : Prop where
  digits : ∀ c ∈ s, Text.isDigit c = false
  phrases : ∀ phrase ∈ keyPhrases, ¬ phrase.toList <:+: s
  words : ∀ w ∈ Text.tokens s, w ∉ keywords

instance (s : List Char) : Decidable (IsForeign s) :=
  decidable_of_iff (s.all (!Text.isDigit ·) = true ∧
      (∀ phrase ∈ keyPhrases, ¬ phrase.toList <:+: s) ∧ ∀ w ∈ Text.tokens s, w ∉ keywords)
    ⟨fun ⟨h₁, h₂, h₃⟩ ↦ ⟨by simpa using h₁, h₂, h₃⟩, fun ⟨h₁, h₂, h₃⟩ ↦ ⟨by simpa using h₁, h₂, h₃⟩⟩

/-- Patterns whose texts all have a digit or one of the words. -/
theorem needsWord_keywords : ∀ p ∈ recurrences ++ [isoDate, slashDate, monthWord, januaryOnly,
    nthOfEveryMonth, runsEvery], p.needsWord keywords = true := by
  decide +kernel

end Vocabulary

namespace Vocabulary.IsForeign

variable (h : IsForeign s)
include h

private theorem search_eq_none {p : Pattern} (hp : p.needsWord keywords = true) : p.search s = none := by
  rw [← Option.isNone_iff_eq_none, ← Option.not_isSome, ← occursIn,
    occursIn_eq_false_of_needsWord hp h.digits h.words]
  rfl

private theorem first?_eq_none {p : Pattern} (hp : p.needsWord keywords = true) : p.first? s = none := by
  rw [first?, h.search_eq_none hp]
  rfl

private theorem containsPhrase_eq_false {phrase : String}
    (hphrase : phrase ∈ keyPhrases ∨ phrase.toList.any Text.isDigit = true) :
    containsPhrase phrase s = false := by
  rw [← Bool.not_eq_true, containsPhrase_iff]
  intro hpart
  cases hphrase with
  | inl hkey => exact h.phrases phrase hkey hpart
  | inr hdigit =>
    obtain ⟨c, hc, hdigit⟩ := List.any_eq_true.mp hdigit
    rw [h.digits c (hpart.subset hc)] at hdigit
    cases hdigit

/-- No number stands in the text. -/
theorem bareDay?_eq_none : Reading.bareDay? s = none := by
  rw [Reading.bareDay?, Option.map_eq_none_iff, List.find?_eq_none]
  intro n _
  have hneeds : (bareNumber n).needsWord keywords = true := by
    have hne : Text.decimal n ≠ [] := Nat.toDigits_ne_nil
    obtain ⟨c, cs, hdecimal⟩ := List.exists_cons_of_ne_nil hne
    have hdigit : Text.isDigit c = true :=
      Text.isDigit_of_ascii (Text.isDigit_of_mem_decimal (n := n) (by simp [hdecimal]))
    have htexts : (bareNumber n).texts = [[] ++ Text.decimal n ++ []] := rfl
    simp [needsWord, htexts, hdecimal, hdigit]
  rw [occursIn, h.search_eq_none hneeds]
  decide

/-- No matcher of single dates answers. -/
theorem matcher_eq_none : ∀ m ∈ SingleDate.matchers, m.2 s = none := by
  have hsearch {p : Pattern} (hp : p ∈ [isoDate, slashDate, monthWord, januaryOnly,
      nthOfEveryMonth, runsEvery]) : p.needsWord keywords = true :=
    needsWord_keywords p (List.mem_append_right _ hp)
  have hholidays : ∀ holiday ∈ holidays, containsPhrase holiday.1 s = false := by
    have hkeys : ∀ holiday ∈ holidays, holiday.1 ∈ keyPhrases := by decide
    exact fun holiday hmem ↦ h.containsPhrase_eq_false (.inl (hkeys holiday hmem))
  have hdays : ∀ k ∈ dayKeywords, containsPhrase k.1 s = false := by
    have hkeys : ∀ k ∈ dayKeywords,
        k.1 ∈ keyPhrases ∨ k.1.toList.any Text.isDigit = true := by decide
    exact fun k hmem ↦ h.containsPhrase_eq_false (hkeys k hmem)
  have hcombinations : ∀ c ∈ shiftCombinations, containsPhrase c.1 s = false := by
    have hkeys : ∀ c ∈ shiftCombinations, c.1.toList.any Text.isDigit = true := by decide
    exact fun c hmem ↦ h.containsPhrase_eq_false (.inr (hkeys c hmem))
  simp only [SingleDate.matchers, List.forall_mem_cons]
  refine ⟨?_, ?_, ?_, ?_, ?_, ?_, ?_, ?_, ?_, ?_, List.forall_mem_nil _⟩
  · rw [SingleDate.isoDate?, h.search_eq_none (hsearch (by simp))]
  · rw [SingleDate.slashDate?, h.search_eq_none (hsearch (by simp))]
  · rw [SingleDate.namedMonth?, Reading.month?, h.first?_eq_none (hsearch (by simp))]
    rfl
  · rw [SingleDate.holiday?, List.find?_eq_none.mpr (by simpa using hholidays)]
    rfl
  · rw [SingleDate.dayKeyword?, Reading.keywordDay?, List.find?_eq_none.mpr (by simpa using hdays)]
    rfl
  · rw [SingleDate.bareDay?, h.bareDay?_eq_none]
    rfl
  · have hnone : ∀ c ∈ shiftCombinations,
        ¬ (containsPhrase c.1 s && containsPhrase c.2.1 s) = true := by
      intro c hc
      rw [hcombinations c hc, Bool.false_and]
      exact Bool.false_ne_true
    rw [SingleDate.shiftCombination?, List.find?_eq_none.mpr hnone]
    rfl
  · rw [SingleDate.januaryOnly?, occursIn, h.search_eq_none (hsearch (by simp))]
    rfl
  · rw [SingleDate.nthOfEveryMonth?, h.first?_eq_none (hsearch (by simp))]
    rfl
  · rw [SingleDate.runsEvery?, h.first?_eq_none (hsearch (by simp))]
    rfl

/-- No entry of the table understands the text. -/
theorem ofText_eq (hs : Text.normalForm t = s) : Rule.ofText t = .unrecognized := by
  by_cases hne : s = []
  · have hnone : ruleTable.find? (·.applies []) = none := rfl
    simp only [Rule.ofText, hs, hne, hnone]
  · have hrecurrences : ∀ p ∈ recurrences, p.search s = none := fun p hp ↦
      h.search_eq_none (needsWord_keywords p (List.mem_append_left _ hp))
    rw [Rule.ofText_eq_ofSingleDate hs hne hrecurrences, Rule.ofSingleDate,
      List.findSome?_eq_none_iff.mpr h.matcher_eq_none]
    rfl

end Vocabulary.IsForeign

end RuleCalendar
