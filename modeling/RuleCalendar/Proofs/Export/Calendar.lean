import RuleCalendar.Proofs.Export.Component
import RuleCalendar.Proofs.Export.EndFree
import RuleCalendar.Proofs.Export.EventValues
import RuleCalendar.Proofs.Schedule.Uniqueness

/-!
# Reading calendars

Main statement: a calendar of the events of a year is read as one component that has one part for
each event, in their order. The part tells the id and the date of the event in its UID, its days,
its name and its note but for their carriage returns, and has an alarm if one was asked for.
-/

namespace RuleCalendar.ICalendar

/-- The component that a text is, if it is one. -/
def read (s : List Char) : Option Component := (readLines s).bind Component.read

/-- Whether a component tells an event. -/
structure IsEventOf (reminderDays : Int) (e : Event) (c : Component) : Prop where
  name : c.name = "VEVENT".toList
  uid : ∃ v, c.values "UID" = [v] ∧ readUid v = some (e.id.toList, e.date)
  first_day : ∃ v, c.values "DTSTART" = [v] ∧ readDate v = some e.date
  day_after : ∃ v next, c.values "DTEND" = [v] ∧ readDate v = some next ∧
    next.number = e.date.number + 1
  summary : ∃ v, c.values "SUMMARY" = [v] ∧
    unescape v = some (withoutReturns (e.name.getD "").toList)
  description : if (e.notes.getD "").toList = [] then c.values "DESCRIPTION" = []
    else ∃ v, c.values "DESCRIPTION" = [v] ∧
      unescape v = some (withoutReturns (e.notes.getD "").toList)
  alarm : if 0 < reminderDays then ∃ a, c.parts = [a] ∧ a.name = "VALARM".toList ∧
      a.values "TRIGGER" = [s!"-P{reminderDays}D".toList]
    else c.parts = []

/-- A content line without parameters. -/
def property (name : String) (value : List Char) : ContentLine :=
  { name := name, value := value }

/-- The alarm of an event. -/
def alarm (e : Event) (days : Int) : Component where
  name := "VALARM".toList
  properties :=
    [property "TRIGGER" s!"-P{days}D".toList, property "ACTION" "DISPLAY".toList,
      property "DESCRIPTION" ("Reminder: ".toList ++ escape (e.name.getD "").toList ++
        " is ".toList ++ (whenText days).toList)]

/-- What is said of an event that ends before a date. -/
def eventProperties (options : Options) (e : Event) (next : Date) : List ContentLine :=
  [property "UID" (uid options.uidDomain e), property "DTSTAMP" options.stamp.compact.toList,
    { name := "DTSTART", params := "VALUE=DATE".toList, value := e.date.compact.toList },
    { name := "DTEND", params := "VALUE=DATE".toList, value := next.compact.toList },
    property "SUMMARY" (escape (e.name.getD "").toList)] ++
  (if (e.notes.getD "").toList.isEmpty then []
    else [property "DESCRIPTION" (escape (e.notes.getD "").toList)]) ++
  [property "STATUS" "CONFIRMED".toList, property "TRANSP" "TRANSPARENT".toList,
    property "CATEGORIES" "Business,Deadline".toList]

/-- The component of an event that ends before a date. -/
def eventComponent (options : Options) (e : Event) (next : Date) : Component where
  name := "VEVENT".toList
  properties := eventProperties options e next
  parts := if 0 < options.reminderDays then [alarm e options.reminderDays] else []

/-- What is told of every event is told once. -/
theorem values_eventComponent (options : Options) (e : Event) (next : Date) :
    (eventComponent options e next).values "UID" = [uid options.uidDomain e] ∧
      (eventComponent options e next).values "DTSTART" = [e.date.compact.toList] ∧
      (eventComponent options e next).values "DTEND" = [next.compact.toList] ∧
      (eventComponent options e next).values "SUMMARY" = [escape (e.name.getD "").toList] := by
  simp only [Component.values, eventComponent, eventProperties, property]
  split <;> simp

/-- The note of an event is told if there is one. -/
theorem values_description (options : Options) (e : Event) (next : Date) :
    (eventComponent options e next).values "DESCRIPTION" =
      if (e.notes.getD "").toList = [] then [] else [escape (e.notes.getD "").toList] := by
  simp only [Component.values, eventComponent, eventProperties, property, List.isEmpty_iff]
  split <;> simp

/-- The component of an event tells it. -/
theorem isEventOf_eventComponent {options : Options} (hdomain : '@' ∉ options.uidDomain.toList)
    {e : Event} (hyear : 1000 ≤ e.date.year) {next : Date}
    (hnext : next.number = e.date.number + 1) :
    IsEventOf options.reminderDays e (eventComponent options e next) := by
  obtain ⟨huid, hfirst, hafter, hsummary⟩ := values_eventComponent options e next
  have hyear' : 1000 ≤ next.year := by
    rw [Date.thousand_le_year_iff] at hyear ⊢
    omega
  refine ⟨rfl, ⟨_, huid, readUid_uid hdomain hyear⟩, ⟨_, hfirst, readDate_compact hyear⟩,
    ⟨_, next, hafter, readDate_compact hyear', hnext⟩, ⟨_, hsummary, unescape_escape _⟩, ?_, ?_⟩
  · rw [values_description]
    split
    · rfl
    · exact ⟨_, rfl, unescape_escape _⟩
  · simp only [eventComponent]
    split
    · exact ⟨_, rfl, rfl, rfl⟩
    · rfl

/-! ### The lines of an event -/

/-- The content lines of the alarm of an event. -/
def alarmBlock (e : Event) (days : Int) : List ContentLine :=
  property "BEGIN" "VALARM".toList :: (alarm e days).properties ++ [property "END" "VALARM".toList]

private theorem alarmLines_written (e : Event) (days : Int) :
    List.Forall₂ IsWrittenFor (alarmLines e days) (alarmBlock e days) := by
  have htrigger : s!"TRIGGER:-P{days}D".toList =
      "TRIGGER:".toList ++ s!"-P{days}D".toList := by
    rw [← String.toList_append]
    rfl
  have hdays : EndFree s!"-P{days}D".toList :=
    endFree_around (s := "-P") (t := "D") (by decide) (by decide) days
  have hreminder : '\r' ∉ "Reminder: ".toList ++ escape (e.name.getD "").toList ++
      " is ".toList ++ (whenText days).toList := by
    have hname := (endFree_escape (e.name.getD "").toList).1
    have hwhen := (endFree_whenText days).1
    simp [hname, hwhen]
  have hdescription : IsWrittenFor ("DESCRIPTION:".toList ++ _) (property "DESCRIPTION" _) :=
    isWrittenFor_append (by decide) hreminder
  rw [alarmLines, htrigger]
  exact .cons (by decide) (.cons (isWrittenFor_append (by decide) hdays.1) (.cons (by decide)
    (.cons hdescription (.cons (by decide) .nil))))

/-- The content lines of the parts of an event. -/
def eventBlocks (options : Options) (e : Event) : List (List ContentLine) :=
  if 0 < options.reminderDays then [alarmBlock e options.reminderDays] else []

/-- The content lines of an event that ends before a date. -/
def eventBlock (options : Options) (e : Event) (next : Date) : List ContentLine :=
  property "BEGIN" "VEVENT".toList :: eventProperties options e next ++
    (eventBlocks options e).flatten ++ [property "END" "VEVENT".toList]

private theorem isBlock_alarmBlock (e : Event) (days : Int) :
    Component.IsBlock (alarmBlock e days) (alarm e days) := by
  have hnames : ∀ p ∈ (alarm e days).properties, p.name ∉ ["BEGIN", "END"] := by
    simp [alarm, property]
  exact Component.isBlock hnames .nil

private theorem isBlock_eventBlock (options : Options) (e : Event) (next : Date) :
    Component.IsBlock (eventBlock options e next) (eventComponent options e next) := by
  have hnames : ∀ p ∈ eventProperties options e next, p.name ∉ ["BEGIN", "END"] := by
    simp only [eventProperties, property]
    split <;> simp
  refine Component.isBlock hnames ?_
  rw [eventBlocks]
  split
  · exact .cons (isBlock_alarmBlock e options.reminderDays) .nil
  · exact .nil

/-- The lines of an event are written for its block. -/
theorem eventLines_written {options : Options} (hdomain : '\r' ∉ options.uidDomain.toList)
    {e : Event} (hid : '\r' ∉ e.id.toList) {next : Date} (hnext : e.date.addDays 1 = .ok next) :
    ∃ texts, eventLines options e = .ok texts ∧
      List.Forall₂ IsWrittenFor texts (eventBlock options e next) := by
  have huid : '\r' ∉ uid options.uidDomain e := by
    have hday := not_mem_compact (c := '\r') rfl e.date
    simp [uid, hid, hday, hdomain]
  have hnotes : List.Forall₂ IsWrittenFor
      (if (e.notes.getD "").toList.isEmpty then []
        else ["DESCRIPTION:".toList ++ escape (e.notes.getD "").toList])
      (if (e.notes.getD "").toList.isEmpty then []
        else [property "DESCRIPTION" (escape (e.notes.getD "").toList)]) := by
    split
    · exact .nil
    · exact .cons (isWrittenFor_append (by decide) (endFree_escape _).1) .nil
  have halarm : List.Forall₂ IsWrittenFor
      (if 0 < options.reminderDays then alarmLines e options.reminderDays else [])
      (eventBlocks options e).flatten := by
    rw [eventBlocks]
    split
    · rw [List.flatten_singleton]
      exact alarmLines_written e options.reminderDays
    · exact .nil
  have hstart : List.Forall₂ IsWrittenFor
      ["BEGIN:VEVENT".toList, "UID:".toList ++ uid options.uidDomain e,
        "DTSTAMP:".toList ++ options.stamp.compact.toList,
        "DTSTART;VALUE=DATE:".toList ++ e.date.compact.toList,
        "DTEND;VALUE=DATE:".toList ++ next.compact.toList,
        "SUMMARY:".toList ++ escape (e.name.getD "").toList]
      [property "BEGIN" "VEVENT".toList, property "UID" (uid options.uidDomain e),
        property "DTSTAMP" options.stamp.compact.toList,
        { name := "DTSTART", params := "VALUE=DATE".toList, value := e.date.compact.toList },
        { name := "DTEND", params := "VALUE=DATE".toList, value := next.compact.toList },
        property "SUMMARY" (escape (e.name.getD "").toList)] := by
    refine .cons (by decide) (.cons ?_ (.cons ?_ (.cons ?_ (.cons ?_ (.cons ?_ .nil)))))
    · exact isWrittenFor_append (by decide) huid
    · exact isWrittenFor_append (by decide) (endFree_stamp options.stamp).1
    · exact isWrittenFor_append (by decide) (not_mem_compact rfl e.date)
    · exact isWrittenFor_append (by decide) (not_mem_compact rfl next)
    · exact isWrittenFor_append (by decide) (endFree_escape _).1
  have hstatus : List.Forall₂ IsWrittenFor
      ["STATUS:CONFIRMED".toList, "TRANSP:TRANSPARENT".toList,
        "CATEGORIES:Business,Deadline".toList]
      [property "STATUS" "CONFIRMED".toList, property "TRANSP" "TRANSPARENT".toList,
        property "CATEGORIES" "Business,Deadline".toList] :=
    .cons (by decide) (.cons (by decide) (.cons (by decide) .nil))
  have hend : List.Forall₂ IsWrittenFor ["END:VEVENT".toList]
      [property "END" "VEVENT".toList] := .cons (by decide) .nil
  rw [eventLines, hnext]
  refine ⟨_, rfl, ?_⟩
  exact List.rel_append (List.rel_append (List.rel_append (List.rel_append hstart hnotes) hstatus)
    halarm) hend

/-! ### Calendars -/

/-- Whether a component tells a calendar with a name and events, in their order. -/
structure IsCalendarOf (title : String) (reminderDays : Int) (events : List Event)
    (c : Component) : Prop where
  name : c.name = "VCALENDAR".toList
  title : ∃ v, c.values "X-WR-CALNAME" = [v] ∧ unescape v = some (withoutReturns title.toList)
  events : List.Forall₂ (IsEventOf reminderDays) events c.parts

/-- Whether an event can be read back: its year has four digits, there is a day after it, and its id
is on one line. -/
structure IsReadable (e : Event) : Prop where
  not_last : e.date.number < 3652059
  four_digits : 1000 ≤ e.date.year
  unbroken : '\r' ∉ e.id.toList

/-- The lines of events are blocks that tell them. -/
theorem mapM_eventLines {options : Options} (hdomain : '\r' ∉ options.uidDomain.toList)
    (hdomain' : '@' ∉ options.uidDomain.toList) {events : List Event}
    (h : ∀ e ∈ events, IsReadable e) :
    ∃ texts blocks cs, events.mapM (eventLines options) = .ok texts ∧
      List.Forall₂ IsWrittenFor texts.flatten blocks.flatten ∧
      List.Forall₂ Component.IsBlock blocks cs ∧
      List.Forall₂ (IsEventOf options.reminderDays) events cs := by
  induction events with
  | nil => exact ⟨[], [], [], rfl, .nil, .nil, .nil⟩
  | cons e events ih =>
    obtain ⟨he, hrest⟩ := List.forall_mem_cons.mp h
    obtain ⟨texts, blocks, cs, htexts, hwritten, hblocks, hcs⟩ := ih hrest
    have hlast := he.not_last
    have hone := e.date.one_le
    obtain ⟨next, hnext, hn⟩ := Date.addDays_ok (d := e.date) (k := 1) (by omega)
    obtain ⟨ls, hls, hlines⟩ := eventLines_written hdomain he.unbroken hnext
    refine ⟨ls :: texts, eventBlock options e next :: blocks, eventComponent options e next :: cs,
      ?_, ?_, .cons (isBlock_eventBlock options e next) hblocks,
      .cons (isEventOf_eventComponent hdomain' he.four_digits hn) hcs⟩
    · rw [List.mapM_cons, hls, ok_bind, htexts]
      rfl
    · rw [List.flatten_cons, List.flatten_cons]
      exact List.rel_append hlines hwritten

/-- What is said of a calendar. -/
def calendarProperties (options : Options) (year : Int) : List ContentLine :=
  [property "VERSION" "2.0".toList, property "PRODID" options.prodid.toList,
    property "CALSCALE" "GREGORIAN".toList, property "METHOD" "PUBLISH".toList,
    property "X-WR-CALNAME" (escape (calendarName options year).toList),
    property "X-WR-CALDESC" s!"Business events and important dates for {year}".toList]

private theorem header_written {options : Options} (hprodid : '\r' ∉ options.prodid.toList) (year : Int) :
    List.Forall₂ IsWrittenFor
      ["BEGIN:VCALENDAR".toList, "VERSION:2.0".toList, "PRODID:".toList ++ options.prodid.toList,
        "CALSCALE:GREGORIAN".toList, "METHOD:PUBLISH".toList,
        "X-WR-CALNAME:".toList ++ escape (calendarName options year).toList,
        s!"X-WR-CALDESC:Business events and important dates for {year}".toList]
      (property "BEGIN" "VCALENDAR".toList :: calendarProperties options year) := by
  have hyear : s!"X-WR-CALDESC:Business events and important dates for {year}".toList =
      "X-WR-CALDESC:".toList ++ s!"Business events and important dates for {year}".toList := by
    rw [← String.toList_append]
    rfl
  have hdescription : '\r' ∉ s!"Business events and important dates for {year}".toList := by
    rw [String.toList_append, List.mem_append, not_or]
    exact ⟨by decide, Text.not_mem_toString_int rfl (by decide) year⟩
  rw [hyear]
  exact .cons (by decide) (.cons (by decide) (.cons (isWrittenFor_append (by decide) hprodid)
    (.cons (by decide) (.cons (by decide) (.cons (isWrittenFor_append (by decide)
      (endFree_escape _).1) (.cons (isWrittenFor_append (by decide) hdescription) .nil))))))

/-- The component of a calendar with parts. -/
def calendarComponent (options : Options) (year : Int) (cs : List Component) : Component where
  name := "VCALENDAR".toList
  properties := calendarProperties options year
  parts := cs

/-- The lines of a calendar are a block that tells it. -/
theorem contentLines_written {options : Options} (hprodid : '\r' ∉ options.prodid.toList)
    (hdomain : '\r' ∉ options.uidDomain.toList) (hdomain' : '@' ∉ options.uidDomain.toList)
    (year : Int) {events : List Event} (h : ∀ e ∈ events, IsReadable e) :
    ∃ ls lines c, contentLines options year events = .ok ls ∧
      List.Forall₂ IsWrittenFor ls lines ∧ Component.IsBlock lines c ∧
      IsCalendarOf (calendarName options year) options.reminderDays events c := by
  obtain ⟨texts, blocks, cs, htexts, hwritten, hblocks, hcs⟩ := mapM_eventLines hdomain hdomain' h
  have hend : List.Forall₂ IsWrittenFor ["END:VCALENDAR".toList]
      [property "END" "VCALENDAR".toList] := .cons (by decide) .nil
  have hlines := List.rel_append (List.rel_append (header_written hprodid year) hwritten) hend
  have hnames : ∀ p ∈ calendarProperties options year, p.name ∉ ["BEGIN", "END"] := by
    simp [calendarProperties, property]
  have hblock : Component.IsBlock (property "BEGIN" "VCALENDAR".toList ::
      calendarProperties options year ++ blocks.flatten ++ [property "END" "VCALENDAR".toList])
      (calendarComponent options year cs) := Component.isBlock hnames hblocks
  rw [contentLines, htexts]
  refine ⟨_, _, _, rfl, hlines, hblock, ⟨rfl, ⟨_, ?_, unescape_escape _⟩, hcs⟩⟩
  simp [Component.values, calendarComponent, calendarProperties, property]

/-- A calendar of events that can be read back is read as a component that tells it. -/
theorem read_render (options : Options) (hprodid : '\r' ∉ options.prodid.toList)
    (hdomain : '\r' ∉ options.uidDomain.toList) (hdomain' : '@' ∉ options.uidDomain.toList)
    (year : Int) {events : List Event} (h : ∀ e ∈ events, IsReadable e) :
    ∃ text c, render options year events = .ok text ∧ read text = some c ∧
      IsCalendarOf (calendarName options year) options.reminderDays events c := by
  obtain ⟨ls, lines, c, hls, hwritten, hblock, hc⟩ :=
    contentLines_written hprodid hdomain hdomain' year h
  rw [render, hls]
  refine ⟨_, c, rfl, ?_, hc⟩
  rw [read, readLines_fold hwritten]
  exact hblock.read_eq

/-! ### The events of a year -/

/-- The events found from the year 1000 on can be read back. -/
theorem isReadable_of_mem_found {lines : List (RuleLine × Nat)} {year : Int}
    (hyear : 1000 ≤ year ∧ year ≤ 9998) {e : Event} (he : e ∈ Schedule.found lines year) :
    IsReadable e where
  not_last := Schedule.number_lt_of_mem_found ⟨by omega, hyear.2⟩ he
  four_digits := by
    obtain ⟨month, hm, line, -, he⟩ := Schedule.mem_found.mp he
    obtain ⟨d, hd, rfl⟩ := List.mem_map.mp he
    have hyear' : 1 ≤ year ∧ year ≤ 9998 := ⟨by omega, hyear.2⟩
    have hregular := Rule.regularDates_dates hyear' (Schedule.month_bounds hm) line.1.toRule
    obtain ⟨n, hn, shift, hshift⟩ := hregular.belongs d hd
    exact Date.thousand_le_year_of_shifted hshift (by rw [hn.1]; exact hyear.1)
  unbroken := Schedule.not_mem_id_of_mem_found he rfl (by decide)

end RuleCalendar.ICalendar
