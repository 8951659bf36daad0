import RuleCalendar.Export.ICalendar
import RuleCalendar.Proofs.Date.Walk

/-!
# Content lines as beginnings and values

A content line of a calendar is a fixed beginning and a value, which may be empty. Main statement: the
content lines of a calendar of events are those of its beginnings and values, where each event has a
day after it.
-/

namespace RuleCalendar.ICalendar

/-- The day after a day; the last day of all has none. -/
def dayAfter (d : Date) : Date := (d.addDays 1).toOption.getD d

/-- The fixed beginnings and the values of the content lines of an alarm. -/
def alarmFields (e : Event) (days : Int) : List (String × List Char) :=
  [("BEGIN:VALARM", []),
    ("TRIGGER:-P", (toString days).toList ++ "D".toList),
    ("ACTION:DISPLAY", []),
    ("DESCRIPTION:Reminder: ",
      escape (e.name.getD "").toList ++ " is ".toList ++ (whenText days).toList),
    ("END:VALARM", [])]

/-- The fixed beginnings and the values of the content lines of an event. -/
def eventFields (options : Options) (e : Event) : List (String × List Char) :=
  [("BEGIN:VEVENT", []),
    ("UID:", uid options.uidDomain e),
    ("DTSTAMP:", options.stamp.compact.toList),
    ("DTSTART;VALUE=DATE:", e.date.compact.toList),
    ("DTEND;VALUE=DATE:", (dayAfter e.date).compact.toList),
    ("SUMMARY:", escape (e.name.getD "").toList)] ++
  (if e.notes.getD "" = "" then [] else [("DESCRIPTION:", escape (e.notes.getD "").toList)]) ++
  [("STATUS:CONFIRMED", []), ("TRANSP:TRANSPARENT", []), ("CATEGORIES:Business,Deadline", [])] ++
  (if 0 < options.reminderDays then alarmFields e options.reminderDays else []) ++
  [("END:VEVENT", [])]

/-- The fixed beginnings and the values of the content lines of a calendar. -/
def contentFields (options : Options) (year : Int) (events : List Event) :
    List (String × List Char) :=
  [("BEGIN:VCALENDAR", []),
    ("VERSION:2.0", []),
    ("PRODID:", options.prodid.toList),
    ("CALSCALE:GREGORIAN", []),
    ("METHOD:PUBLISH", []),
    ("X-WR-CALNAME:", escape (calendarName options year).toList),
    ("X-WR-CALDESC:Business events and important dates for ", (toString year).toList)] ++
  events.flatMap (eventFields options) ++ [("END:VCALENDAR", [])]

/-- The content line of a beginning and a value. -/
def fieldLine (f : String × List Char) : List Char := f.1.toList ++ f.2

private theorem alarmLines_eq (e : Event) (days : Int) :
    alarmLines e days = (alarmFields e days).map fieldLine := by
  have htrigger : s!"TRIGGER:-P{days}D".toList =
      "TRIGGER:-P".toList ++ ((toString days).toList ++ "D".toList) := by
    rw [String.toList_append, String.toList_append, List.append_assoc]
    rfl
  rw [alarmLines, htrigger]
  simp only [alarmFields, List.map_cons, List.map_nil, fieldLine, List.append_nil,
    List.append_assoc]
  rfl

private theorem eventLines_eq (options : Options) {e : Event} (h : e.date.number < 3652059) :
    eventLines options e = .ok ((eventFields options e).map fieldLine) := by
  have hone := e.date.one_le
  obtain ⟨next, hnext, -⟩ := Date.addDays_ok (d := e.date) (k := 1) (by omega)
  have hafter : dayAfter e.date = next := by
    rw [dayAfter, hnext]
    rfl
  rw [eventLines, hnext, ok_bind]
  simp only [eventFields, hafter, List.map_append, List.map_cons, List.map_nil, fieldLine,
    List.append_nil, apply_ite (List.map fieldLine), ← alarmLines_eq]
  simp only [List.isEmpty_iff, String.toList_eq_nil_iff]
  rfl

/-- The content lines of a calendar are those of its beginnings and values. -/
theorem contentLines_eq (options : Options) (year : Int) {events : List Event}
    (h : ∀ e ∈ events, e.date.number < 3652059) :
    contentLines options year events = .ok ((contentFields options year events).map fieldLine) := by
  have hyear : s!"X-WR-CALDESC:Business events and important dates for {year}".toList =
      "X-WR-CALDESC:Business events and important dates for ".toList ++ (toString year).toList := by
    rw [String.toList_append]
    rfl
  have hbody : (events.map fun e ↦ (eventFields options e).map fieldLine).flatten =
      (events.flatMap (eventFields options)).map fieldLine := by
    rw [List.map_flatMap, List.flatMap_def]
  rw [contentLines, mapM_eq_ok fun e he ↦ eventLines_eq options (h e he), ok_bind, hyear, hbody]
  simp only [contentFields, List.map_append, List.map_cons, List.map_nil, fieldLine,
    List.append_nil]
  rfl

end RuleCalendar.ICalendar
