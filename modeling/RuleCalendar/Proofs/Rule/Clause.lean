import Mathlib.Data.List.Find
import RuleCalendar.Proofs.Pattern.Boundary
import RuleCalendar.Proofs.Text.NormalForm
import RuleCalendar.Rule.Table

/-!
# Reading a text with a weekend clause

What is read from a rule text that goes on with a clause that asks to move its date off a weekend.
The clause holds a shift phrase and, for one shift, a phrase for working days. Every other part of
the vocabulary finds in the text with the clause what it finds without it, since no match crosses
the comma and none lies behind it.
-/

namespace RuleCalendar

/-- The clauses that ask to move a date off a weekend, and the shift that each of them names. -/
def weekendClauses : List (String × Shift) :=
  [(", if weekend then previous friday", .previousFriday),
    (", if weekend then next monday", .nextMonday),
    (", if weekend then next working day", .nextWorkingDay)]

/-- A normal form goes on with the clause for a shift, with or without a space before it. -/
def WithClause (shift : Shift) (s s' : List Char) : Prop :=
  ∃ clause gap, (clause, shift) ∈ weekendClauses ∧ (gap = [] ∨ gap = [' ']) ∧
    s' = s ++ gap ++ clause.toList

namespace Vocabulary

/-- The parts of the vocabulary but shifts and working days of no rank. -/
def beyondWeekends : List Pattern :=
  [daily, weekly, monthly, everyWeekday, biweekly, quarterly, semiannual, annual, endOfMonth,
    ordinalWeekday, firstWorkingDay, lastWorkingDay, numberedWorkingDay, rankedWorkingDay,
    everyWorkingDay, lastDay, monthWord, suffixedDay, introducedDay, monthThenDay, dayThenMonth,
    isoDate, slashDate, januaryOnly, nthOfEveryMonth, runsEvery] ++
  (List.range' 1 31).map bareNumber ++
  dayKeywords.map (fun k ↦ .text k.1.toList) ++ holidays.map (fun h ↦ .text h.1.toList) ++
  shiftCombinations.map fun c ↦ .text c.1.toList

/-- The parts of the vocabulary that weekend clauses say something about. -/
def aboutWeekends : List Pattern :=
  businessDay :: shifts.map (·.1) ++ shiftCombinations.map fun c ↦ .text c.2.1.toList

private theorem staysBesideComma_of_mem {p : Pattern} (h : p ∈ beyondWeekends ++ aboutWeekends) :
    p.staysBesideComma = true := by
  have hall : ∀ p ∈ beyondWeekends ++ aboutWeekends, p.staysBesideComma = true := by
    decide +kernel
  exact hall p h

private theorem search_clause_of_mem {p : Pattern} (hp : p ∈ beyondWeekends) {c : String × Shift}
    (hc : c ∈ weekendClauses) : p.search c.1.toList = none := by
  have hall : ∀ c ∈ weekendClauses, ∀ p ∈ beyondWeekends, p.search c.1.toList = none := by
    decide +kernel
  exact hall c hc p hp

end Vocabulary

private theorem exists_rest {clause : String} {shift : Shift}
    (h : (clause, shift) ∈ weekendClauses) : ∃ rest, clause.toList = ',' :: rest := by
  have hall : ∀ c ∈ weekendClauses, c.1.toList.head? = some ',' := by decide +kernel
  exact List.head?_eq_some_iff.mp (hall (clause, shift) h)

/-- The normal form of a text with a clause. -/
theorem withClause_normalForm {clause : String} {shift : Shift}
    (h : (clause, shift) ∈ weekendClauses) (t : List Char) :
    WithClause shift (Text.normalForm t) (Text.normalForm (t ++ clause.toList)) := by
  have hall : ∀ c ∈ weekendClauses, Text.normalForm c.1.toList = c.1.toList := by
    decide +kernel
  have hnormal : Text.normalForm clause.toList = clause.toList := hall (clause, shift) h
  obtain ⟨rest, hrest⟩ := exists_rest h
  obtain ⟨gap, hgap, happend⟩ := Text.normalForm_append_comma t rest
  rw [← hrest, hnormal] at happend
  exact ⟨clause, gap, h, hgap, happend⟩

namespace WithClause

variable {shift : Shift} {s s' : List Char}

/-- A text with a clause is not empty. -/
theorem ne_nil (h : WithClause shift s s') : s' ≠ [] := by
  obtain ⟨clause, gap, hclause, -, rfl⟩ := h
  obtain ⟨rest, hrest⟩ := exists_rest hclause
  rw [hrest]
  simp

/-- A search goes through the text and then through the clause. -/
theorem search_eq_or (h : WithClause shift s s') :
    ∃ clause, (clause, shift) ∈ weekendClauses ∧
      ∀ p ∈ Vocabulary.beyondWeekends ++ Vocabulary.aboutWeekends,
        p.search s' = (p.search s).or (p.search clause.toList) := by
  obtain ⟨clause, gap, hclause, hgap, rfl⟩ := h
  refine ⟨clause, hclause, ?_⟩
  intro p hp
  obtain ⟨rest, hrest⟩ := exists_rest hclause
  rw [hrest]
  exact Pattern.search_append_comma (Vocabulary.staysBesideComma_of_mem hp) hgap s rest

/-- The clause holds nothing of the vocabulary that has nothing to do with weekends. -/
theorem search_eq (h : WithClause shift s s') {p : Pattern} (hp : p ∈ Vocabulary.beyondWeekends) :
    p.search s' = p.search s := by
  obtain ⟨clause, hclause, hsearch⟩ := h.search_eq_or
  rw [hsearch p (List.mem_append_left _ hp), Vocabulary.search_clause_of_mem hp hclause,
    Option.or_none]

/-- The clause adds no occurrence of what has nothing to do with weekends. -/
theorem occursIn_eq (h : WithClause shift s s') {p : Pattern}
    (hp : p ∈ Vocabulary.beyondWeekends) : p.occursIn s' = p.occursIn s := by
  rw [Pattern.occursIn, Pattern.occursIn, h.search_eq hp]

/-- The clause adds no first number of what has nothing to do with weekends. -/
theorem first?_eq (h : WithClause shift s s') {p : Pattern}
    (hp : p ∈ Vocabulary.beyondWeekends) : p.first? s' = p.first? s := by
  rw [Pattern.first?, Pattern.first?, h.search_eq hp]

/-- The clause adds no phrase that has nothing to do with weekends. -/
theorem containsPhrase_eq (h : WithClause shift s s') {phrase : String}
    (hp : .text phrase.toList ∈ Vocabulary.beyondWeekends) :
    containsPhrase phrase s' = containsPhrase phrase s :=
  h.occursIn_eq hp

/-! ### Readings -/

private theorem validDay?_eq (h : WithClause shift s s') {p : Pattern}
    (hp : p ∈ Vocabulary.beyondWeekends) : Reading.validDay? p s' = Reading.validDay? p s := by
  rw [Reading.validDay?, Reading.validDay?, h.first?_eq hp]

/-- The clause names no month. -/
theorem month?_eq (h : WithClause shift s s') : Reading.month? s' = Reading.month? s :=
  h.first?_eq (by simp [Vocabulary.beyondWeekends])

/-- The clause holds no keyword for a day. -/
theorem keywordDay?_eq (h : WithClause shift s s') :
    Reading.keywordDay? s' = Reading.keywordDay? s := by
  rw [Reading.keywordDay?, Reading.keywordDay?]
  apply congrArg (Option.map _)
  apply List.find?_congr
  intro k hk
  apply h.containsPhrase_eq
  rw [Vocabulary.beyondWeekends]
  simp only [List.mem_append, List.mem_map]
  exact .inl (.inl (.inr ⟨k, hk, rfl⟩))

/-- The clause names no day of the month. -/
theorem day?_eq (h : WithClause shift s s') : Reading.day? s' = Reading.day? s := by
  rw [Reading.day?, Reading.day?, h.keywordDay?_eq,
    h.validDay?_eq (by simp [Vocabulary.beyondWeekends]),
    h.validDay?_eq (by simp [Vocabulary.beyondWeekends])]

/-- The clause names no day beside a month. -/
theorem monthDay?_eq (h : WithClause shift s s') : Reading.monthDay? s' = Reading.monthDay? s := by
  rw [Reading.monthDay?, Reading.monthDay?, h.day?_eq,
    h.validDay?_eq (by simp [Vocabulary.beyondWeekends]),
    h.validDay?_eq (by simp [Vocabulary.beyondWeekends])]

/-- The clause holds no number. -/
theorem bareDay?_eq (h : WithClause shift s s') : Reading.bareDay? s' = Reading.bareDay? s := by
  rw [Reading.bareDay?, Reading.bareDay?]
  apply congrArg (Option.map _)
  apply List.find?_congr
  intro n hn
  apply h.occursIn_eq
  rw [Vocabulary.beyondWeekends]
  simp only [List.mem_append, List.mem_map]
  exact .inl (.inl (.inl (.inr ⟨n, hn, rfl⟩)))

/-- The clause names no ranked weekday. -/
theorem ordinalWeekday?_eq (h : WithClause shift s s') :
    Reading.ordinalWeekday? s' = Reading.ordinalWeekday? s := by
  rw [Reading.ordinalWeekday?, Reading.ordinalWeekday?,
    h.search_eq (by simp [Vocabulary.beyondWeekends])]

/-- The clause names no ranked working day. -/
theorem workingDay?_eq (h : WithClause shift s s') :
    Reading.workingDay? s' = Reading.workingDay? s := by
  rw [Reading.workingDay?, Reading.workingDay?,
    h.occursIn_eq (by simp [Vocabulary.beyondWeekends]),
    h.occursIn_eq (by simp [Vocabulary.beyondWeekends]),
    h.first?_eq (by simp [Vocabulary.beyondWeekends]),
    h.first?_eq (by simp [Vocabulary.beyondWeekends]),
    h.occursIn_eq (by simp [Vocabulary.beyondWeekends])]

/-! ### Shifts -/

private theorem exists_occursIn (h : WithClause shift s s') :
    ∃ clause, (clause, shift) ∈ weekendClauses ∧ ∀ p ∈ Vocabulary.aboutWeekends,
      p.occursIn s' = (p.occursIn s || p.occursIn clause.toList) := by
  obtain ⟨clause, hclause, hsearch⟩ := h.search_eq_or
  refine ⟨clause, hclause, ?_⟩
  intro p hp
  rw [Pattern.occursIn, hsearch p (List.mem_append_right _ hp), Option.isSome_or]
  rfl

private theorem occursIn_of_shift_eq_none (hs : Reading.shift s = .none) {p : Pattern × Shift}
    (hp : p ∈ Vocabulary.shifts) : p.1.occursIn s = false := by
  have hshifts : ∀ q ∈ Vocabulary.shifts, q.2 ≠ .none := by decide
  cases hfind : Vocabulary.shifts.find? (fun q ↦ q.1.occursIn s) with
  | none => simpa using List.find?_eq_none.mp hfind p hp
  | some q =>
    rw [Reading.shift, hfind] at hs
    exact absurd hs (hshifts q (List.mem_of_find?_eq_some hfind))

/-- A text without a shift of its own gets the shift of its clause. -/
theorem shift_eq (h : WithClause shift s s') (hs : Reading.shift s = .none) :
    Reading.shift s' = shift := by
  have hall : ∀ c ∈ weekendClauses, Reading.shift c.1.toList = c.2 := by decide +kernel
  obtain ⟨clause, hclause, hoccurs⟩ := h.exists_occursIn
  have hfind : Vocabulary.shifts.find? (fun p ↦ p.1.occursIn s') =
      Vocabulary.shifts.find? (fun p ↦ p.1.occursIn clause.toList) := by
    apply List.find?_congr
    intro p hp
    have hmem : p.1 ∈ Vocabulary.aboutWeekends :=
      List.mem_append_left _ (List.mem_cons_of_mem _ (List.mem_map_of_mem hp))
    rw [hoccurs p.1 hmem, occursIn_of_shift_eq_none hs hp, Bool.false_or]
  rw [Reading.shift, hfind]
  exact hall (clause, shift) hclause

/-- The phrase of a shift stands in the text or is that of the clause. -/
theorem containsPhrase_combination (h : WithClause shift s s')
    {c : String × String × Int × Shift} (hc : c ∈ Vocabulary.shiftCombinations) :
    containsPhrase c.2.1 s' = (containsPhrase c.2.1 s || c.2.2.2 == shift) := by
  have hall : ∀ d ∈ weekendClauses, ∀ c ∈ Vocabulary.shiftCombinations,
      containsPhrase c.2.1 d.1.toList = (c.2.2.2 == d.2) := by
    decide +kernel
  obtain ⟨clause, hclause, hoccurs⟩ := h.exists_occursIn
  have hmem : .text c.2.1.toList ∈ Vocabulary.aboutWeekends :=
    List.mem_append_right _ (List.mem_map.mpr ⟨c, hc, rfl⟩)
  rw [containsPhrase, hoccurs _ hmem, ← hall (clause, shift) hclause c hc]
  rfl

/-- Only the clause for the next working day speaks of working days. -/
theorem businessDay_eq (h : WithClause shift s s') (hshift : shift ≠ .nextWorkingDay) :
    Vocabulary.businessDay.occursIn s' = Vocabulary.businessDay.occursIn s := by
  have hall : ∀ d ∈ weekendClauses, d.2 ≠ .nextWorkingDay →
      Vocabulary.businessDay.occursIn d.1.toList = false := by
    decide +kernel
  obtain ⟨clause, hclause, hoccurs⟩ := h.exists_occursIn
  rw [hoccurs _ (List.mem_append_left _ List.mem_cons_self),
    hall (clause, shift) hclause hshift, Bool.or_false]

end WithClause
end RuleCalendar
