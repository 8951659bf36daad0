import RuleCalendar.Proofs.Schedule.Discovery

/-!
# Lines do not affect each other

The id of an event tells its line, so that the events of some lines can be picked out of those of
all. Main statement: the lines of two lists have together the events that each list has alone, in
the same order, with the line numbers of the second list raised by the length of the first.
-/

namespace RuleCalendar.Schedule

/-- The event with the number of its line raised. -/
def raiseEvent (count : Nat) (e : Event) : Event := { e with id := raiseLine count e.id }

variable {year : Int} {line : RuleLine × Nat} {lines : List (RuleLine × Nat)}

/-- Picking events by the line of their ids picks the events of these lines. -/
theorem filter_found (p : Nat → Bool) (lines : List (RuleLine × Nat)) :
    (found lines year).filter (fun e ↦ p (lineOf e.id)) =
      found (lines.filter fun l ↦ p l.2) year := by
  have hline : ∀ month ∈ months, ∀ line : RuleLine × Nat,
      (eventsOn line year month).filter (fun e ↦ p (lineOf e.id)) =
        if p line.2 then eventsOn line year month else [] := by
    intro month hm line
    split
    · next hp =>
      exact List.filter_eq_self.2 fun e he ↦ by rwa [(place_of_mem_eventsOn hm he).2]
    · next hp =>
      exact List.filter_eq_nil_iff.2 fun e he ↦ by rwa [(place_of_mem_eventsOn hm he).2]
  rw [found, List.filter_flatMap, found]
  refine List.flatMap_congr fun month hm ↦ ?_
  rw [List.filter_flatMap]
  induction lines with
  | nil => rfl
  | cons line lines ih =>
    rw [List.flatMap_cons, ih, hline month hm line, List.filter_cons]
    split <;> rfl

/-- Lines numbered from a higher number on have the same events with their lines raised. -/
theorem found_raised (count : Nat) (lines : List RuleLine) :
    found (lines.zipIdx count) year = (found lines.zipIdx year).map (raiseEvent count) := by
  have hline : ∀ month ∈ months, ∀ line : RuleLine × Nat,
      eventsOn (line.1, line.2 + count) year month =
        (eventsOn line year month).map (raiseEvent count) := by
    intro month hm line
    rw [eventsOn, eventsOn, List.map_map]
    refine List.map_congr_left fun d _ ↦ ?_
    have hmonth := month_bounds hm
    have hday := d.day_bounds
    simp only [Function.comp_apply, raiseEvent, eventOn,
      raiseLine_eventId (by omega : 0 ≤ month) (by omega : 0 ≤ d.day)]
  have hnumbers : lines.zipIdx count = lines.zipIdx.map fun l ↦ (l.1, l.2 + count) := by
    rw [List.zipIdx_eq_map_add]
    simp only [Nat.add_comm]
  rw [found, found, hnumbers, List.map_flatMap]
  refine List.flatMap_congr fun month hm ↦ ?_
  rw [List.flatMap_map, List.map_flatMap]
  exact List.flatMap_congr fun line _ ↦ hline month hm line

private theorem filter_zipIdx_append (A B : List RuleLine) :
    (A ++ B).zipIdx.filter (fun l ↦ decide (l.2 < A.length)) = A.zipIdx ∧
      (A ++ B).zipIdx.filter (fun l ↦ decide (A.length ≤ l.2)) = B.zipIdx A.length := by
  have hlow : ∀ l ∈ A.zipIdx, l.2 < A.length := fun l hl ↦ by
    have := List.snd_lt_of_mem_zipIdx hl
    omega
  have hhigh : ∀ l ∈ B.zipIdx A.length, A.length ≤ l.2 := fun l hl ↦
    List.le_snd_of_mem_zipIdx hl
  rw [List.zipIdx_append, List.filter_append, List.filter_append, Nat.zero_add]
  constructor
  · rw [List.filter_eq_self.2 fun l hl ↦ decide_eq_true (hlow l hl),
      List.filter_eq_nil_iff.2 fun l hl ↦ by simpa using hhigh l hl, List.append_nil]
  · rw [List.filter_eq_nil_iff.2 fun l hl ↦ by simpa using hlow l hl,
      List.filter_eq_self.2 fun l hl ↦ decide_eq_true (hhigh l hl), List.nil_append]

/-- The events of two lists of lines are those that each list gives alone: among them, the events
with a line of the first list are its events, and those with a later line are the events of the
second list with their lines raised, each in their own order. -/
theorem ofLines_append (A B : List RuleLine) (hyear : 1 ≤ year ∧ year ≤ 9998) :
    ∃ first second both : Schedule, ofLines A year = .ok first ∧ ofLines B year = .ok second ∧
      ofLines (A ++ B) year = .ok both ∧
      both.events.filter (fun e ↦ decide (lineOf e.id < A.length)) = first.events ∧
      both.events.filter (fun e ↦ decide (A.length ≤ lineOf e.id)) =
        second.events.map (raiseEvent A.length) := by
  refine ⟨_, _, _, ofLines_eq_ok hyear A, ofLines_eq_ok hyear B, ofLines_eq_ok hyear (A ++ B),
    ?_, ?_⟩
  · rw [Event.filter_sortByDate, filter_found fun line ↦ decide (line < A.length),
      (filter_zipIdx_append A B).1]
  · rw [Event.filter_sortByDate, filter_found fun line ↦ decide (A.length ≤ line),
      (filter_zipIdx_append A B).2, found_raised]
    exact (Event.map_sortByDate (raiseEvent A.length) _ fun _ ↦ rfl).symm

/-- A line that is not understood beside one with a shift across the end of the year. -/
theorem ofLines_append_unknown :
    let A : List RuleLine := [{ name := "Audit", rule := "whenever" }]
    let B : List RuleLine := [{ name := "Close", rule := "31, if weekend then next monday" }]
    ((1 : Int) ≤ 2022 ∧ (2022 : Int) ≤ 9998) ∧
      ∃ first second both : Schedule, ofLines A 2022 = .ok first ∧ ofLines B 2022 = .ok second ∧
        ofLines (A ++ B) 2022 = .ok both ∧
        both.events.filter (fun e ↦ decide (lineOf e.id < A.length)) = first.events ∧
        both.events.filter (fun e ↦ decide (A.length ≤ lineOf e.id)) =
          second.events.map (raiseEvent A.length) :=
  ⟨by decide, ofLines_append _ _ (by decide)⟩

end RuleCalendar.Schedule
