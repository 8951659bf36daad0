import RuleCalendar.Proofs.Success
import RuleCalendar.Schedule

/-!
# The search for events

A search goes through the lines once a month. A pass over the lines adds their events of the month
and names the lines that are not understood and were not named before, so that all are named in the
first pass and none in the later ones. Main statement: a search comes to the events of all lines in
all months, in this order, and to the lines that are not understood, each once.
-/

namespace RuleCalendar.Schedule

/-- The events of a year in the order in which they are found. -/
def discover (lines : List RuleLine) (year : Int) : Except CalendarError (List Event) := do
  return (← search lines year).events

/-- The lines that are not understood. -/
def unknownRules (lines : List RuleLine) : List UnknownRule :=
  (lines.filter fun l ↦ !l.toRule.isRecognized).map fun l ↦ ⟨l.name, l.rule⟩

variable {year month : Int} {s : Search}

/-! ### One pass over the lines -/

/-- The events of lines in a month, line by line. -/
def eventsOfAll (ls : List (Nat × RuleLine × Rule)) (year month : Int) :
    Except CalendarError (List (List Event)) :=
  ls.mapM fun l ↦ eventsOf l.1 l.2.1 l.2.2 year month

namespace Search

/-- The lines that are not understood and not named yet. -/
def unnamed (s : Search) (ls : List (Nat × RuleLine × Rule)) : List (Nat × RuleLine × Rule) :=
  ls.filter fun l ↦ !l.2.2.isRecognized && l.1 ∉ s.named

/-- The search with more events found and more lines named. -/
def add (s : Search) (events : List Event) (ls : List (Nat × RuleLine × Rule)) : Search where
  events := s.events ++ events
  named := s.named ++ ls.map (·.1)
  unknown := s.unknown ++ ls.map fun l ↦ ⟨l.2.1.name, l.2.1.rule⟩

@[simp] private theorem add_nil (s : Search) : s.add [] [] = s := by
  simp [add]

private theorem add_add (s : Search) (es es' : List Event) (ls ls' : List (Nat × RuleLine × Rule)) :
    (s.add es ls).add es' ls' = s.add (es ++ es') (ls ++ ls') := by
  simp [add]

/-- Of no lines, none is left to name. -/
@[simp] theorem unnamed_nil (s : Search) : s.unnamed [] = [] := rfl

private theorem unnamed_cons (s : Search) (l : Nat × RuleLine × Rule)
    (ls : List (Nat × RuleLine × Rule)) : s.unnamed (l :: ls) = s.unnamed [l] ++ s.unnamed ls :=
  List.filter_append [l] ls

/-- Naming a line does not change which of the others are still to be named. -/
theorem unnamed_add (s : Search) (es : List Event) {l : Nat × RuleLine × Rule}
    {ls : List (Nat × RuleLine × Rule)} (h : l.1 ∉ ls.map (·.1)) :
    (s.add es (s.unnamed [l])).unnamed ls = s.unnamed ls := by
  apply List.filter_congr
  intro l' hl'
  have hnew : l'.1 ∉ (s.unnamed [l]).map (·.1) := by
    intro hmem
    obtain ⟨m, hm, heq⟩ := List.mem_map.mp hmem
    rw [List.mem_singleton.mp (List.mem_filter.mp hm).1] at heq
    exact h (heq ▸ List.mem_map_of_mem hl')
  simp [add, hnew]

/-- Once a pass has named lines, none of them are to be named. -/
theorem unnamed_add_unnamed (s : Search) (es : List Event) (ls : List (Nat × RuleLine × Rule)) :
    (s.add es (s.unnamed ls)).unnamed ls = [] := by
  apply List.filter_eq_nil_iff.mpr
  intro l hl
  by_cases hnamed : l.1 ∈ s.named
  · simp [add, hnamed]
  · by_cases hrule : l.2.2.isRecognized = true
    · simp [hrule]
    · have hunnamed : l ∈ s.unnamed ls := List.mem_filter.mpr ⟨hl, by simp [hrule, hnamed]⟩
      have hadded : l.1 ∈ (s.unnamed ls).map (·.1) := List.mem_map_of_mem hunnamed
      simp only [add, List.mem_append, hadded, or_true, not_true, decide_false, Bool.and_false,
        Bool.false_eq_true, not_false_eq_true]

private theorem eventsOf_of_not_recognized {index : Nat} {line : RuleLine} {rule : Rule}
    (h : rule.isRecognized = false) : eventsOf index line rule year month = .ok [] := by
  have hfamily : rule.family = .unrecognized := by simpa [Rule.isRecognized] using h
  simp only [eventsOf, Rule.datesIn, hfamily]
  rfl

/-- A visit to a line adds its events of the month, and names it if it is to be named. -/
theorem visit_eq (s : Search) (l : Nat × RuleLine × Rule) :
    s.visit year month l = do
      return s.add (← eventsOf l.1 l.2.1 l.2.2 year month) (s.unnamed [l]) := by
  obtain ⟨index, line, rule⟩ := l
  by_cases hrule : rule.isRecognized = true
  · simp [visit, unnamed, add, hrule]
  · have hnone : eventsOf index line rule year month = .ok [] :=
      eventsOf_of_not_recognized (Bool.eq_false_iff.mpr hrule)
    by_cases hnamed : index ∈ s.named
    · simp [visit, unnamed, hrule, hnamed, hnone, pure, Except.pure]
    · simp [visit, unnamed, add, hrule, hnamed, hnone, pure, Except.pure]

/-- A pass over lines with different numbers adds the events of all and names those that are to be
named. -/
theorem foldlM_visit (ls : List (Nat × RuleLine × Rule)) (s : Search)
    (hdistinct : (ls.map (·.1)).Nodup) :
    ls.foldlM (visit year month) s = do
      return s.add (← eventsOfAll ls year month).flatten (s.unnamed ls) := by
  induction ls generalizing s with
  | nil => simp [eventsOfAll]
  | cons l ls ih =>
    obtain ⟨hl, hls⟩ := List.nodup_cons.mp hdistinct
    rw [List.foldlM_cons, visit_eq, eventsOfAll, List.mapM_cons]
    cases eventsOf l.1 l.2.1 l.2.2 year month with
    | error e => rfl
    | ok es =>
      simp only [ok_bind, pure_bind]
      rw [ih _ hls, unnamed_add s es hl, ← eventsOfAll, unnamed_cons s l ls]
      cases eventsOfAll ls year month with
      | error e => rfl
      | ok found => simp [add_add]

/-! ### The passes of a year -/

/-- Passes by which no line is to be named add the events of all lines in all months. -/
theorem foldlM_passes (ls : List (Nat × RuleLine × Rule)) (hdistinct : (ls.map (·.1)).Nodup)
    (ms : List Int) (s : Search) (hnamed : s.unnamed ls = []) :
    ms.foldlM (fun s month ↦ ls.foldlM (visit year month) s) s = do
      return s.add (← ms.mapM (eventsOfAll ls year)).flatten.flatten [] := by
  induction ms generalizing s with
  | nil => simp
  | cons month ms ih =>
    rw [List.foldlM_cons, foldlM_visit ls s hdistinct, hnamed, List.mapM_cons]
    cases eventsOfAll ls year month with
    | error e => rfl
    | ok found =>
      have hsame : (s.add found.flatten []).unnamed ls = s.unnamed ls := by
        simp [unnamed, add]
      simp only [ok_bind, pure_bind]
      rw [ih _ (hsame.trans hnamed)]
      cases ms.mapM (eventsOfAll ls year) with
      | error e => rfl
      | ok rest => simp [add_add]

end Search

/-- The lines are numbered from zero on. -/
theorem map_fst_ruled (lines : List RuleLine) :
    (ruled lines).map (·.1) = List.range' 0 lines.length := by
  rw [ruled, List.map_map, ← List.zipIdx_map_snd 0 lines]
  rfl

/-- The lines that are not understood, with their numbers. -/
def unknownLines (lines : List RuleLine) : List (Nat × RuleLine × Rule) :=
  (ruled lines).filter fun l ↦ !l.2.2.isRecognized

/-- A search comes to the events of all lines in all months, and names each line that is not
understood once. -/
theorem search_eq (lines : List RuleLine) (year : Int) :
    search lines year = do
      let found ← months.mapM (eventsOfAll (ruled lines) year)
      return Search.add {} found.flatten.flatten (unknownLines lines) := by
  have hdistinct : ((ruled lines).map (·.1)).Nodup := by
    rw [map_fst_ruled]
    exact List.nodup_range'
  have hfirst : Search.unnamed {} (ruled lines) = unknownLines lines := by
    simp [Search.unnamed, unknownLines]
  -- All that are to be named are named in January.
  rw [search, months, List.foldlM_cons, Search.foldlM_visit _ _ hdistinct, List.mapM_cons]
  cases eventsOfAll (ruled lines) year 1 with
  | error e => rfl
  | ok found =>
    simp only [ok_bind, pure_bind]
    rw [Search.foldlM_passes _ hdistinct _ _ (Search.unnamed_add_unnamed _ _ _), hfirst]
    cases List.mapM (eventsOfAll (ruled lines) year) _ with
    | error e => rfl
    | ok rest => simp [Search.add_add]

/-- The events that are discovered are those of all lines in all months, month by month. -/
theorem discover_eq (lines : List RuleLine) (year : Int) :
    discover lines year = do
      return (← months.mapM (eventsOfAll (ruled lines) year)).flatten.flatten := by
  rw [discover, search_eq]
  cases months.mapM (eventsOfAll (ruled lines) year) with
  | error e => rfl
  | ok found => simp [Search.add]

/-- The lines that are not understood are named in order. -/
theorem map_unknownLines (lines : List RuleLine) :
    (unknownLines lines).map (fun l ↦ (⟨l.2.1.name, l.2.1.rule⟩ : UnknownRule)) =
      unknownRules lines := by
  have hlines : unknownRules lines = unknownRules (lines.zipIdx.map (·.1)) := by
    rw [List.zipIdx_map_fst]
  rw [hlines, unknownRules, unknownLines, ruled]
  simp only [List.filter_map, List.map_map]
  rfl

/-- The events of a year are those found, sorted by date, and the lines that are not understood are
named beside them. -/
theorem ofLines_eq (lines : List RuleLine) (year : Int) :
    ofLines lines year = do
      return {
        events := Event.sortByDate (← discover lines year)
        unknown := unknownRules lines } := by
  rw [ofLines, discover, search_eq]
  cases months.mapM (eventsOfAll (ruled lines) year) with
  | error e => rfl
  | ok found => simp [Search.add, map_unknownLines]

end RuleCalendar.Schedule
