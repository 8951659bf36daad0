import Mathlib.Data.List.Nodup
import RuleCalendar.Proofs.Rule.SingleDate

/-!
# Which matcher answers

Every rule names the entry or the matcher that made it. Main statement: a rule names a matcher of
single dates just when no recurrence takes its text, no matcher that is tried before answers it, and
the rule is what this matcher answers.
-/

namespace RuleCalendar

variable {s : List Char}

namespace SingleDate

/-- The matcher with a name gets to see the text: no recurrence takes it, and the matchers that are
tried before do not answer it. -/
structure Reaches (name : String) (s : List Char) : Prop where
  entry : ruleTable.find? (·.applies s) = some .singleDate
  earlier : ∀ m ∈ matchers.takeWhile (·.1 != name), m.2 s = none

private theorem nodup_names : (matchers.map (·.1)).Nodup := by
  decide

private theorem takeWhile_matchers {before after : List (String × (List Char → Option Rule))}
    {m : String × (List Char → Option Rule)} (h : matchers = before ++ m :: after) :
    matchers.takeWhile (·.1 != m.1) = before := by
  have hnodup := nodup_names
  rw [h, List.map_append, List.map_cons] at hnodup
  have hbefore : ∀ m' ∈ before, (m'.1 != m.1) = true := by
    intro m' hm'
    rw [bne_iff_ne]
    exact (List.nodup_append.mp hnodup).2.2 _ (List.mem_map_of_mem hm') _ List.mem_cons_self
  rw [h, List.takeWhile_append_of_pos hbefore, List.takeWhile_cons_of_neg (by simp),
    List.append_nil]

end SingleDate

/-- The entries for recurrences put their names to the rules they make, or nothing. -/
theorem RuleEntry.pattern_rule {entry : RuleEntry} (hentry : entry ∈ ruleTable)
    (hname : entry.name ≠ "single_date") :
    (entry.rule s).pattern = entry.name ∨ (entry.rule s).pattern = "" := by
  simp only [ruleTable, List.mem_cons, List.not_mem_nil, or_false] at hentry
  rcases hentry with rfl | rfl | rfl | rfl | rfl | rfl | rfl | rfl | rfl | rfl | rfl | rfl
  · exact .inl rfl
  · exact .inl rfl
  · exact .inl (Rule.pattern_at _ _)
  · exact .inl rfl
  · exact .inl rfl
  · exact .inl (Rule.pattern_at _ _)
  · exact .inl (Rule.pattern_at _ _)
  · exact .inl (Rule.pattern_at _ _)
  · exact .inl rfl
  · simp only [ordinalWeekday]
    split
    · exact .inl rfl
    · exact .inr rfl
  · exact .inl (Rule.pattern_at _ _)
  · exact absurd rfl hname

/-- No rule that an entry for recurrences makes names a matcher of single dates. -/
theorem RuleEntry.pattern_rule_notMem {entry : RuleEntry} (hentry : entry ∈ ruleTable)
    (hname : entry.name ≠ "single_date") :
    (entry.rule s).pattern ∉ SingleDate.matchers.map (·.1) := by
  have hnames : ∀ name ∈ ruleTable.map (·.name), name ≠ "single_date" →
      name ∉ SingleDate.matchers.map (·.1) := by
    decide
  obtain hpattern | hpattern := pattern_rule (s := s) hentry hname
  · rw [hpattern]
    exact hnames _ (List.mem_map_of_mem hentry) hname
  · rw [hpattern]
    decide

namespace Rule

open SingleDate

/-- A rule that names a matcher comes from the entry for single dates. -/
theorem find?_of_pattern_mem {t : List Char} (h : (ofText t).pattern ∈ matchers.map (·.1)) :
    ruleTable.find? (·.applies (Text.normalForm t)) = some .singleDate := by
  generalize hs : Text.normalForm t = s
  cases hfind : ruleTable.find? (·.applies s) with
  | none =>
    have hunrecognized : unrecognized.pattern ∉ matchers.map (·.1) := by decide
    simp only [ofText, hs, hfind] at h
    exact absurd h hunrecognized
  | some entry =>
    have hentry := List.mem_of_find?_eq_some hfind
    have hnodup : (ruleTable.map (·.name)).Nodup := by decide
    simp only [ofText, hs, hfind] at h
    by_cases hname : entry.name = "single_date"
    · rw [List.inj_on_of_nodup_map hnodup hentry (by simp [ruleTable] : .singleDate ∈ ruleTable)
        hname]
    · exact absurd h (RuleEntry.pattern_rule_notMem hentry hname)

private theorem ofText_of_find? {t : List Char}
    (h : ruleTable.find? (·.applies (Text.normalForm t)) = some .singleDate) :
    ofText t = ofSingleDate (Text.normalForm t) := by
  simp only [ofText, h]
  rfl

/-- A single date that names a matcher is what the matcher answers, and none before it answers. -/
theorem of_pattern_ofSingleDate {m : String × (List Char → Option Rule)} (hm : m ∈ matchers)
    (h : (ofSingleDate s).pattern = m.1) :
    (∀ m' ∈ matchers.takeWhile (·.1 != m.1), m'.2 s = none) ∧ m.2 s = some (ofSingleDate s) := by
  cases hr : matchers.findSome? (·.2 s) with
  | none =>
    have hunrecognized : unrecognized.pattern ∉ matchers.map (·.1) := by decide
    rw [ofSingleDate, hr] at h
    exact absurd (h ▸ List.mem_map_of_mem hm) hunrecognized
  | some r =>
    have hsingle : ofSingleDate s = r := by
      rw [ofSingleDate, hr]
      rfl
    obtain ⟨before, m', after, hmatchers, hanswer, hbefore⟩ := List.findSome?_eq_some_iff.mp hr
    have hm' : m' ∈ matchers := hmatchers ▸ List.mem_append_right _ List.mem_cons_self
    have hname : m'.1 = m.1 := by
      rw [← h, hsingle, (isAnswer_of_mem hm' hanswer).pattern]
    obtain rfl := List.inj_on_of_nodup_map nodup_names hm' hm hname
    rw [takeWhile_matchers hmatchers, hsingle]
    exact ⟨hbefore, hanswer⟩

/-- A rule names a matcher of single dates when the matcher gets to see its text and answers with
the rule. -/
theorem pattern_ofText_eq_iff {m : String × (List Char → Option Rule)} (hm : m ∈ matchers)
    (t : List Char) : (ofText t).pattern = m.1 ↔
      Reaches m.1 (Text.normalForm t) ∧ m.2 (Text.normalForm t) = some (ofText t) := by
  constructor
  · intro h
    have hname : (ofText t).pattern ∈ matchers.map (·.1) := h ▸ List.mem_map_of_mem hm
    have hentry := find?_of_pattern_mem hname
    rw [ofText_of_find? hentry] at h ⊢
    obtain ⟨hearlier, hanswer⟩ := of_pattern_ofSingleDate hm h
    exact ⟨⟨hentry, hearlier⟩, hanswer⟩
  · rintro ⟨-, hanswer⟩
    exact (isAnswer_of_mem hm hanswer).pattern

/-- A text that a matcher gets to see and answers gives the rule of its answer. -/
theorem ofText_of_reaches {m : String × (List Char → Option Rule)} (hm : m ∈ matchers)
    {t : List Char} {r : Rule} (hreaches : Reaches m.1 (Text.normalForm t))
    (hanswer : m.2 (Text.normalForm t) = some r) : ofText t = r := by
  obtain ⟨before, after, hmatchers⟩ := List.append_of_mem hm
  have hearlier := hreaches.earlier
  rw [takeWhile_matchers hmatchers] at hearlier
  have hfirst : matchers.findSome? (·.2 (Text.normalForm t)) = some r :=
    List.findSome?_eq_some_iff.mpr ⟨before, m, after, hmatchers, hanswer, hearlier⟩
  rw [ofText_of_find? hreaches.entry, ofSingleDate, hfirst]
  rfl

end Rule

end RuleCalendar
