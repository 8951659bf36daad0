import Mathlib.Order.Bounds.Defs
import RuleCalendar.Proofs.Pattern.WholeWord
import RuleCalendar.Proofs.Text.Decimal
import RuleCalendar.Rule.Reading

/-!
# Names and numbers that are words

Weekdays, months and bare day numbers are read from whole words only. Main statement: the month and
the weekday of a text are those of its first word that names one, and the bare day is the least day
number whose decimal is a word of the text.
-/

namespace RuleCalendar

open Pattern

variable {s w : List Char}

namespace Vocabulary

/-- The number of the month that a word names, from 1 for January. -/
def monthNamed? (w : List Char) : Option Int :=
  (monthNames.findIdx? fun name ↦ w = name.toList).map fun i : Nat ↦ (i : Int) + 1

/-- The number of the weekday that a word names, in the singular or the plural, from 0 for Monday. -/
def weekdayNamed? (w : List Char) : Option Int :=
  (weekdayNames.findIdx? fun name ↦ w = name.toList ∨ w = name.toList ++ ['s']).map Int.ofNat

private theorem spellsWords_month : month.spellsWords = true := by
  decide +kernel

private theorem spellsWords_weekday : (weekday ++ Pattern.optional "s").spellsWords = true := by
  decide +kernel

private theorem readingOf?_month (w : List Char) :
    month.readingOf? w = (monthNamed? w).map fun n ↦ [n] := by
  rw [readingOf?, month, spellings_name, monthNamed?, List.findIdx?_eq_fst_find?_zipIdx,
    List.find?_map, List.find?_map]
  simp only [Option.map_map, Function.comp_def, eq_comm]

/-- A weekday is looked for in the plural first. -/
theorem spellings_weekday :
    (weekday ++ Pattern.optional "s").spellings = weekdayNames.zipIdx.flatMap fun n ↦
      [([(n.2 : Int)], n.1.toList ++ ['s']), ([(n.2 : Int)], n.1.toList)] := by
  show (weekday.spellings.flatMap fun l ↦ [(([] : List Int), ['s']), ([], [])].map fun r ↦
    (l.1 ++ r.1, l.2 ++ r.2)) = _
  rw [weekday, spellings_name, List.map_map, List.flatMap_map]
  simp

private theorem readingOf?_weekday (w : List Char) :
    (weekday ++ Pattern.optional "s").readingOf? w = (weekdayNamed? w).map fun n ↦ [n] := by
  rw [readingOf?, spellings_weekday, weekdayNamed?, List.findIdx?_eq_findSome?_zipIdx,
    List.find?_flatMap]
  simp only [List.map_findSome?]
  apply findSome?_congr
  intro n _
  by_cases hplural : w = n.1.toList ++ ['s']
  · simp [hplural]
  · by_cases hsingular : w = n.1.toList
    · simp [hsingular]
    · simp [hplural, hsingular, Ne.symm hplural, Ne.symm hsingular]

/-- A number stands as a word of its own just where its decimal is a word. -/
theorem occursIn_bareNumber_iff (n : Nat) :
    (bareNumber n).occursIn s = true ↔ Text.decimal n ∈ Text.tokens s := by
  have hword : ∀ c ∈ Text.decimal n, Text.isWord c = true := fun c hc ↦
    Text.isWord_of_isDigit (Text.isDigit_of_ascii (Text.isDigit_of_mem_decimal hc))
  have hp : (text (Text.decimal n)).spellsWords = true := by
    have hne : Text.decimal n ≠ [] := Nat.toDigits_ne_nil
    simpa [spellsWords, isSpelled, spellings, hne] using hword
  rw [occursIn, bareNumber, search_whole hp]
  simp [readingOf?, spellings]

end Vocabulary

namespace Reading

open Vocabulary

/-- A pattern that spells names of numbers gives the number of the first word that is one. -/
theorem first?_whole {p : Pattern} {named? : List Char → Option Int} (hp : p.spellsWords = true)
    (hnamed : ∀ w, p.readingOf? w = (named? w).map fun n ↦ [n]) (s : List Char) :
    (whole p).first? s = (Text.tokens s).findSome? named? := by
  have hsearch : (whole p).search s = ((Text.tokens s).findSome? named?).map fun n ↦ [n] := by
    rw [search_whole hp, List.map_findSome?]
    exact findSome?_congr fun w _ ↦ hnamed w
  rw [first?, hsearch]
  cases (Text.tokens s).findSome? named? <;> rfl

private theorem bareDay?_eq_some_iff_isLeast {day : Int} : bareDay? s = some day ↔
    ∃ n : Nat, day = n ∧ IsLeast {n | (1 ≤ n ∧ n ≤ 31) ∧ Text.decimal n ∈ Text.tokens s} n := by
  have hrange {n : Nat} : n ∈ List.range' 1 31 ↔ 1 ≤ n ∧ n ≤ 31 := by
    rw [List.mem_range'_1]
    omega
  rw [bareDay?, Option.map_eq_some_iff]
  apply exists_congr
  intro n
  rw [List.find?_range'_eq_some, hrange, occursIn_bareNumber_iff]
  constructor
  · rintro ⟨⟨hword, hn, hbelow⟩, rfl⟩
    refine ⟨rfl, ⟨hn, hword⟩, ?_⟩
    intro m hm
    by_contra hlt
    have hnone := hbelow m hm.1.1 (Nat.lt_of_not_le hlt)
    rw [(occursIn_bareNumber_iff m).mpr hm.2] at hnone
    cases hnone
  · rintro ⟨rfl, ⟨hn, hword⟩, hleast⟩
    refine ⟨⟨hword, hn, ?_⟩, rfl⟩
    intro m hm hlt
    have hnone : ¬ (bareNumber m).occursIn s = true := by
      intro hoccurs
      have hle : n ≤ m := hleast ⟨⟨hm, by omega⟩, (occursIn_bareNumber_iff m).mp hoccurs⟩
      omega
    simpa using hnone

/-- The month and the weekday of a text are those of its first word that is such a name, a weekday
with an s after it or not; the bare day is the least number from 1 to 31 whose decimal is a word. -/
theorem reads_tokens (s : List Char) :
    month? s = (Text.tokens s).findSome? monthNamed? ∧
    weekday? s = (Text.tokens s).findSome? weekdayNamed? ∧
    ∀ day : Int, bareDay? s = some day ↔
      ∃ n : Nat, day = n ∧ IsLeast {n | (1 ≤ n ∧ n ≤ 31) ∧ Text.decimal n ∈ Text.tokens s} n := by
  refine ⟨?_, ?_, ?_⟩
  · exact first?_whole spellsWords_month readingOf?_month s
  · exact first?_whole spellsWords_weekday readingOf?_weekday s
  · exact fun day ↦ bareDay?_eq_some_iff_isLeast

example : weekday? "mondayish_friday, tuesdays".toList = some 1 := by
  decide +kernel

end Reading

end RuleCalendar
