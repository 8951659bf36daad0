import RuleCalendar.Proofs.Export.Field
import RuleCalendar.Proofs.Text.Decimal

/-!
# What a calendar tells its events apart by

Of the content lines of a calendar those with a UID are picked by their name. Main statements: there
is one for each event, in the order of the events, and on events with different ids their values
differ, whatever the domain.
-/

namespace RuleCalendar.ICalendar

/-- The value of a content line that tells a UID. -/
def uidOf? (line : List Char) : Option (List Char) :=
  if "UID:".toList.isPrefixOf line then some (line.drop "UID:".toList.length) else none

/-! ### Values -/

/-- A date without marks holds digits only. -/
theorem not_mem_compact {c : Char} (hc : c.isDigit = false) (d : Date) : c ∉ d.compact.toList := by
  rw [Date.compact, String.toList_ofList]
  simp only [List.mem_append, not_or]
  have hdigits := Text.not_mem_zeroPadded hc
  exact ⟨⟨hdigits _ _, hdigits _ _⟩, hdigits _ _⟩

/-- Events with the same UID at a domain have the same id. -/
theorem id_eq_of_uid_eq {domain : String} {e f : Event} (h : uid domain e = uid domain f) :
    e.id = f.id := by
  have hlocal : e.id.toList ++ '-' :: e.date.compact.toList =
      f.id.toList ++ '-' :: f.date.compact.toList := List.append_cancel_right h
  have hday : e.date.compact.toList = f.date.compact.toList := by
    have hdays : ∀ d : Date, '-' ∉ d.compact.toList.reverse := fun d ↦ by
      rw [List.mem_reverse]
      exact not_mem_compact rfl d
    -- the day is what comes first when the text is read backwards
    have hsplit := congrArg (fun s ↦ Text.splitAt '-' s.reverse) hlocal
    simp only [List.reverse_append, List.reverse_cons, List.append_assoc, List.singleton_append,
      Text.splitAt_append (hdays _)] at hsplit
    exact List.reverse_injective (List.cons.inj hsplit).1
  rw [hday] at hlocal
  exact String.toList_inj.1 (List.append_cancel_right hlocal)

/-! ### Lines -/

/-- Among the lines of an event one has a UID. -/
theorem filterMap_uidOf?_eventFields (options : Options) (e : Event) :
    ((eventFields options e).map fieldLine).filterMap uidOf? = [uid options.uidDomain e] := by
  have hnotes : ∀ notes : String, ((if notes = "" then [] else
      [("DESCRIPTION:", escape notes.toList)]).map fieldLine).filterMap uidOf? = [] := by
    intro notes
    split
    · rfl
    · simp only [List.map_cons, List.map_nil, fieldLine]
      rfl
  have halarm : ((if 0 < options.reminderDays then alarmFields e options.reminderDays
      else []).map fieldLine).filterMap uidOf? = [] := by
    split
    · simp only [alarmFields, List.map_cons, List.map_nil, fieldLine]
      rfl
    · rfl
  simp only [eventFields, List.map_append, List.filterMap_append, hnotes, halarm, List.map_cons,
    List.map_nil, fieldLine]
  rfl

/-- A calendar has a UID for each event, in their order. -/
theorem filterMap_uidOf?_contentLines (options : Options) (year : Int) {events : List Event}
    (h : ∀ e ∈ events, e.date.number < 3652059) :
    ∃ ls, contentLines options year events = .ok ls ∧
      ls.filterMap uidOf? = events.map (uid options.uidDomain) := by
  refine ⟨_, contentLines_eq options year h, ?_⟩
  have hend : ["END:VCALENDAR".toList].filterMap uidOf? = [] := rfl
  simp only [contentFields, List.map_append, List.filterMap_append, List.map_flatMap,
    List.filterMap_flatMap, filterMap_uidOf?_eventFields, ← List.map_eq_flatMap, List.map_cons,
    List.map_nil, fieldLine, List.append_nil, hend]
  rfl

end RuleCalendar.ICalendar
