import RuleCalendar.Export.Request
import RuleCalendar.Proofs.Export.Calendar
import RuleCalendar.Proofs.Export.Folding
import RuleCalendar.Proofs.YearCalendar

/-!
# Line ends in calendars

Each content line of a calendar is a fixed beginning and a value. Names and notes are escaped, so no
line ends in them; the product and the domain of a calendar stand as they are set. Main statement:
the text of a calendar is its folded content lines, each with a line end after it, their number is
that of the events and their alarms whatever texts are set, and no other line ends are in it exactly
where the product and the domain hold none.
-/

namespace RuleCalendar.ICalendar

/-! ### The content lines of a calendar -/

/-- The number of the content lines of a calendar. -/
def lineCount (reminderDays : Int) (events : List Event) : Nat :=
  8 + (events.map fun e ↦ 10 + (if e.notes.getD "" = "" then 0 else 1) +
    (if 0 < reminderDays then 5 else 0)).sum

private theorem length_contentFields (options : Options) (year : Int) (events : List Event) :
    (contentFields options year events).length = lineCount options.reminderDays events := by
  have hevent : ∀ e, (eventFields options e).length = 10 +
      (if e.notes.getD "" = "" then 0 else 1) + (if 0 < options.reminderDays then 5 else 0) := by
    intro e
    simp only [eventFields, alarmFields, List.length_append]
    split <;> split <;> simp
  simp only [contentFields, List.length_append, List.length_flatMap, hevent, lineCount,
    List.length_cons, List.length_nil]
  omega

/-- Whether a text can begin a content line: it does not begin with a space, and no line ends in
it. -/
def IsBeginning (s : String) : Prop := EndFree s.toList ∧ s.toList.headD ' ' ≠ ' '

instance (s : String) : Decidable (IsBeginning s) :=
  inferInstanceAs (Decidable (EndFree s.toList ∧ s.toList.headD ' ' ≠ ' '))

private theorem isBeginning_of_mem_contentFields (options : Options) (year : Int) (events : List Event) :
    ∀ f ∈ contentFields options year events, IsBeginning f.1 := by
  have halarm : ∀ e days, ∀ f ∈ alarmFields e days, IsBeginning f.1 := by
    intro e days
    simp only [alarmFields, List.forall_mem_cons]
    decide
  have hevent : ∀ e, ∀ f ∈ eventFields options e, IsBeginning f.1 := by
    intro e
    simp only [eventFields, List.forall_mem_append]
    refine ⟨⟨⟨⟨?_, ?_⟩, ?_⟩, ?_⟩, ?_⟩
    · simp only [List.forall_mem_cons]
      decide
    · split
      · exact List.forall_mem_nil _
      · simp only [List.forall_mem_cons]
        decide
    · decide
    · split
      · exact halarm e _
      · exact List.forall_mem_nil _
    · decide
  simp only [contentFields, List.forall_mem_append]
  refine ⟨⟨?_, ?_⟩, by decide⟩
  · simp only [List.forall_mem_cons]
    decide
  · intro f hf
    obtain ⟨e, -, hf⟩ := List.mem_flatMap.mp hf
    exact hevent e f hf

private theorem endFree_uid (domain : String) {e : Event} (hid : EndFree e.id.toList) :
    EndFree (uid domain e) ↔ EndFree domain.toList := by
  have hmarks : EndFree ['-'] ∧ EndFree ['@'] := by decide
  have huid : uid domain e = e.id.toList ++ (['-'] ++ e.date.compact.toList) ++
      (['@'] ++ domain.toList) := by
    simp [uid]
  simp only [huid, endFree_append, hid, hmarks, endFree_compact, true_and]

private theorem endFree_alarmFields (e : Event) (days : Int) :
    ∀ f ∈ alarmFields e days, EndFree f.2 := by
  have hfixed : EndFree [] ∧ EndFree "D".toList ∧ EndFree " is ".toList := by decide
  simp only [alarmFields, List.forall_mem_cons, endFree_append, endFree_integer, endFree_escape,
    endFree_whenText, hfixed, List.not_mem_nil, IsEmpty.forall_iff, implies_true, and_self]

/-- No line ends in the values of the content lines of an event but for its domain. -/
theorem endFree_eventFields (options : Options) {e : Event} (hid : EndFree e.id.toList) :
    (∀ f ∈ eventFields options e, EndFree f.2) ↔ EndFree options.uidDomain.toList := by
  have hempty : EndFree [] := by decide
  have hnotes : ∀ f ∈ if e.notes.getD "" = "" then [] else
      [("DESCRIPTION:", escape (e.notes.getD "").toList)], EndFree f.2 := by
    split
    · exact List.forall_mem_nil _
    · simp only [List.forall_mem_singleton, endFree_escape]
  have halarm : ∀ f ∈ if 0 < options.reminderDays then alarmFields e options.reminderDays else [],
      EndFree f.2 := by
    split
    · exact endFree_alarmFields e _
    · exact List.forall_mem_nil _
  simp only [eventFields, List.forall_mem_append, List.forall_mem_cons, iff_true_intro hnotes,
    iff_true_intro halarm, hempty, endFree_uid _ hid, endFree_stamp, endFree_compact,
    endFree_escape, List.not_mem_nil, IsEmpty.forall_iff, implies_true, true_and, and_true]

/-- No line ends in the values of content lines but for the product and the domain. -/
theorem endFree_contentFields (options : Options) (year : Int) {events : List Event}
    (hid : ∀ e ∈ events, EndFree e.id.toList) :
    (∀ f ∈ contentFields options year events, EndFree f.2) ↔
      EndFree options.prodid.toList ∧ (events ≠ [] → EndFree options.uidDomain.toList) := by
  have hempty : EndFree [] := by decide
  have hevents : (∀ f ∈ events.flatMap (eventFields options), EndFree f.2) ↔
      (events ≠ [] → EndFree options.uidDomain.toList) := by
    constructor
    · intro h hne
      obtain ⟨e, he⟩ := List.exists_mem_of_ne_nil events hne
      exact (endFree_eventFields options (hid e he)).mp fun f hf ↦
        h f (List.mem_flatMap.mpr ⟨e, he, hf⟩)
    · intro h f hf
      obtain ⟨e, he, hf⟩ := List.mem_flatMap.mp hf
      exact (endFree_eventFields options (hid e he)).mpr (h (List.ne_nil_of_mem he)) f hf
  simp only [contentFields, List.forall_mem_append, List.forall_mem_cons, hevents, hempty,
    endFree_escape, endFree_integer, List.not_mem_nil, IsEmpty.forall_iff, implies_true, true_and,
    and_true]

private theorem endFree_fieldLine {f : String × List Char} (h : IsBeginning f.1) :
    EndFree (fieldLine f) ↔ EndFree f.2 := by
  rw [fieldLine, endFree_append]
  exact and_iff_right h.1

private theorem head?_fieldLine {f : String × List Char} (h : IsBeginning f.1) :
    (fieldLine f).head? ≠ some ' ' := by
  have hspace := h.2
  rw [fieldLine]
  cases hbeginning : f.1.toList with
  | nil => exact absurd (by rw [hbeginning]; rfl) hspace
  | cons c s =>
    rw [hbeginning, List.headD_cons] at hspace
    simpa using hspace

/-- What is written of a calendar: its content lines, folded, each with a line end after it. -/
structure IsWrittenCalendar (options : Options) (events : List Event) (lines : List (List Char))
    (text : List Char) : Prop where
  written : text = (lines.flatMap foldedLines).flatMap (· ++ ['\r', '\n'])
  length : lines.length = lineCount options.reminderDays events
  endFree_iff : (∀ l ∈ lines.flatMap foldedLines, EndFree l) ↔
    EndFree options.prodid.toList ∧ (events ≠ [] → EndFree options.uidDomain.toList)
  unfolds : (∀ l ∈ lines.flatMap foldedLines, EndFree l) → unfolded (crlfLines text) = lines

private theorem isWrittenCalendar_render (options : Options) (year : Int) {events : List Event}
    (hlast : ∀ e ∈ events, e.date.number < 3652059) (hid : ∀ e ∈ events, EndFree e.id.toList) :
    ∃ lines text, contentLines options year events = .ok lines ∧
      render options year events = .ok text ∧ IsWrittenCalendar options events lines text := by
  have hlines := contentLines_eq options year hlast
  have hrender : render options year events =
      .ok (((contentFields options year events).map fieldLine).flatMap fun l ↦
        fold l ++ ['\r', '\n']) := by
    rw [render, hlines]
    rfl
  have hbeginning := isBeginning_of_mem_contentFields options year events
  have hends : (∀ l ∈ ((contentFields options year events).map fieldLine).flatMap foldedLines,
      EndFree l) ↔ ∀ f ∈ contentFields options year events, EndFree f.2 := by
    simp only [List.forall_mem_flatMap, forall_endFree_foldedLines, List.forall_mem_map]
    exact forall₂_congr fun f hf ↦ endFree_fieldLine (hbeginning f hf)
  refine ⟨_, _, hlines, hrender, ?_, ?_, ?_, ?_⟩
  · simp only [fold_append_end, List.flatMap_assoc]
  · rw [List.length_map, length_contentFields]
  · rw [hends, endFree_contentFields options year hid]
  · intro hfree
    apply (unfolded_crlfLines _).1
    rw [List.forall_mem_map]
    intro f hf
    have hvalue := hends.mp hfree f hf
    exact ⟨((endFree_fieldLine (hbeginning f hf)).mpr hvalue).1, head?_fieldLine (hbeginning f hf)⟩

/-! ### Exported calendars -/

/-- An export as iCalendar writes the content lines of the events, as many whatever texts are set.
They are what is read from it where no line ends in the product and, if there are events, in the
domain; else there are line ends within them. -/
theorem render_ics_endFree_iff (r : ExportRequest) {year : Int}
    (hyear : Quantity.year.read r.year = .ok year) :
    ∃ c lines text, YearCalendar.ofText r.text r.year = .ok c ∧ c.year = year ∧
      Schedule.ofText r.text year = .ok c.schedule ∧
      contentLines (r.settings.calendarOptions r.stamp) year c.schedule.events = .ok lines ∧
      r.render .ics c = .ok text ∧
      IsWrittenCalendar (r.settings.calendarOptions r.stamp) c.schedule.events lines text := by
  have hbounds := YearCalendar.year_bounds hyear
  have hyear' : 1 ≤ year ∧ year ≤ 9998 := by omega
  have hc : YearCalendar.ofText r.text r.year = .ok (YearCalendar.ofYear r.text year) := by
    rw [YearCalendar.ofText_eq, hyear]
    rfl
  have hlast : ∀ e ∈ (YearCalendar.ofYear r.text year).schedule.events, e.date.number < 3652059 :=
    fun e he ↦ Schedule.number_lt_of_mem_found hyear' (YearCalendar.mem_events_ofYear he)
  have hid : ∀ e ∈ (YearCalendar.ofYear r.text year).schedule.events, EndFree e.id.toList := fun e he ↦
    endFree_of_digits fun _ ↦
      Schedule.not_mem_id_of_mem_found (YearCalendar.mem_events_ofYear he)
  obtain ⟨lines, text, hlines, htext, hwritten⟩ :=
    isWrittenCalendar_render (r.settings.calendarOptions r.stamp) year hlast hid
  exact ⟨_, lines, text, hc, rfl, Schedule.ofLines_eq_ok hyear' _, hlines, htext, hwritten⟩

/-- Marks in a name, line ends in the name of the calendar, and a line end in the product. -/
theorem render_ics_endFree_iff_marks :
    let r : ExportRequest :=
      { text := "Close; A,B\\C - last working day".toList
        year := .text "2026"
        format := "ics"
        path := Path.ofText "c.ics"
        settings := { calendarName := some "A\r\nB", reminderDays := 0, prodid := "A\nB" }
        stamp := ⟨⟨738000, by decide, by decide⟩, 12, 0, 0⟩ }
    Quantity.year.read r.year = .ok 2026 ∧
      ∃ c lines text, YearCalendar.ofText r.text r.year = .ok c ∧ c.year = 2026 ∧
        Schedule.ofText r.text 2026 = .ok c.schedule ∧
        contentLines (r.settings.calendarOptions r.stamp) 2026 c.schedule.events = .ok lines ∧
        r.render .ics c = .ok text ∧
        IsWrittenCalendar (r.settings.calendarOptions r.stamp) c.schedule.events lines text :=
  ⟨rfl, render_ics_endFree_iff _ rfl⟩

/-- A product that holds a line end adds a content line to a calendar without events. -/
theorem exists_render_ics_split :
    let entries := [(.text "prodid", .text "-//A//EN\r\nX-INJECTED:1")]
    let stamp : Moment := ⟨⟨738000, by decide, by decide⟩, 12, 0, 0⟩
    ∃ settings text, Settings.ofEntries ⟨[], []⟩ Settings.unnamedSource entries = .ok settings ∧
      render (settings.calendarOptions stamp) 2026 [] = .ok text ∧
      lineCount settings.reminderDays [] = 8 ∧ (unfolded (crlfLines text)).length = 9 := by
  intro entries stamp
  exact ⟨_, _, rfl, rfl, rfl, by decide +kernel⟩

end RuleCalendar.ICalendar
