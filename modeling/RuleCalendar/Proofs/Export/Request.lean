import RuleCalendar.Command.Calendar
import RuleCalendar.Proofs.Envelope
import RuleCalendar.Proofs.Export.Calendar
import RuleCalendar.Proofs.Export.Csv
import RuleCalendar.Proofs.Files.Tree
import RuleCalendar.Proofs.Text.Utf8
import RuleCalendar.Proofs.YearCalendar

/-!
# Exports

Main statement: an export that succeeds writes one file, in which as many events are read as the
year has and as are told; all other files stay, as they all do where an export fails.
-/

namespace RuleCalendar

namespace ExportFormat

/-- How many events are read in the bytes of a file in a format: after the header of a table, or
among the parts of a calendar. -/
def recordCount (format : ExportFormat) (bytes : List UInt8) : Option Nat :=
  match format, Utf8.decode bytes with
  | _, .error _ => none
  | csv, .ok text => (Csv.read text).map (·.tail.length)
  | ics, .ok text => (ICalendar.read text).map fun c ↦
    (c.parts.filter (·.name = "VEVENT".toList)).length

/-- Whether a format goes by a name. -/
def IsNamed (format : ExportFormat) (name : String) : Prop :=
  (format = csv ∧ name = "csv") ∨ (format = ics ∧ name = "ics")

/-- The format of a name is the one that goes by it, if there is one. -/
theorem ofName?_eq_some_iff {name : String} {format : ExportFormat} :
    ofName? name = some format ↔ format.IsNamed name := by
  by_cases hcsv : name = "csv"
  · subst hcsv
    simpa [ofName?, all, ExportFormat.name, IsNamed] using eq_comm
  · by_cases hics : name = "ics"
    · subst hics
      simpa [ofName?, all, ExportFormat.name, IsNamed] using eq_comm
    · simp [ofName?, all, ExportFormat.name, IsNamed, hcsv, hics, Ne.symm hcsv, Ne.symm hics]

private theorem recordCount_csv (events : List Event) :
    recordCount csv (Utf8.encode (Csv.render events)) = some events.length := by
  have hlength := (Event.sortByDate_perm events).length_eq
  simp only [recordCount, Utf8.decode_encode, Csv.read_render, Option.map_some, List.tail_cons,
    List.length_map, hlength]

/-- A calendar that tells events has as many parts of their name. -/
theorem length_filter_parts {title : String} {days : Int} {events : List Event}
    {c : ICalendar.Component} (h : ICalendar.IsCalendarOf title days events c) :
    (c.parts.filter (·.name = "VEVENT".toList)).length = events.length := by
  have hparts : List.Forall₂
      (fun p e ↦ p.name = "VEVENT".toList ∧ ICalendar.IsEventOf days e p) c.parts events :=
    (h.events.imp fun e p hp ↦ ⟨hp.name, hp⟩).flip
  have hnames := ((List.forall₂_and_left _ _).mp hparts).1
  rw [List.filter_eq_self.mpr fun p hp ↦ decide_eq_true (hnames p hp)]
  exact h.events.length_eq.symm

private theorem recordCount_ics {options : ICalendar.Options}
    (hprodid : options.prodid = "-//Business Calendar Generator//EN")
    (hdomain : options.uidDomain = "business-calendar.com") {year : Int} {events : List Event}
    (hevents : ∀ e ∈ events, ICalendar.IsReadable e) :
    ∃ text, ICalendar.render options year events = .ok text ∧
      recordCount ics (Utf8.encode text) = some events.length := by
  obtain ⟨text, c, htext, hread, hc⟩ := ICalendar.read_render options (by rw [hprodid]; decide)
    (by rw [hdomain]; decide) (by rw [hdomain]; decide) year hevents
  refine ⟨text, htext, ?_⟩
  simp only [recordCount, Utf8.decode_encode, hread, Option.map_some, length_filter_parts hc]

end ExportFormat

namespace ExportRequest

/-- Whether a text is what a format makes of the events of a year. -/
def IsRendered (r : ExportRequest) (format : ExportFormat) (year : Int) (events : List Event)
    (text : List Char) : Prop :=
  match format with
  | .csv => text = Csv.render events
  | .ics => ICalendar.render (r.settings.calendarOptions r.stamp) year events = .ok text

/-- Whether an export is what a request asks for: the events of the rules text for the year are
written to the file and to no other, and as many are told and are read in it. -/
structure IsExported (r : ExportRequest) (t t' : FileTree) (e : Exported) : Prop where
  path : e.path = r.path
  format : e.format.IsNamed r.format
  content : ∃ year c text, Quantity.year.read r.year = .ok year ∧
    YearCalendar.ofText r.text r.year = .ok c ∧ Schedule.ofText r.text year = .ok c.schedule ∧
    r.render e.format c = .ok text ∧ r.IsRendered e.format year c.schedule.events text ∧
    e.count = c.schedule.events.length ∧ t.IsSaved t' r.path (Utf8.encode text) ∧
    e.format.recordCount (Utf8.encode text) = some c.schedule.events.length

/-- Whether nothing stands in the way of an export: its format and its year are known, its directory
is there, and no directory is where its file is to be. -/
structure IsUnhindered (r : ExportRequest) (t : FileTree) : Prop where
  format : ∃ format : ExportFormat, format.IsNamed r.format
  year : ∃ year, r.year.toInteger = .ok year ∧ 2020 ≤ year ∧ year ≤ 2050
  parent : t.holdsDirectory r.path.parent.toText = true
  file : ∃ l, t.locate r.path.toText = .ok l ∧ t.get? l ≠ some .directory

private theorem IsUnhindered.save_ok {r : ExportRequest} {t : FileTree} (h : r.IsUnhindered t)
    (text : List Char) : ∃ t', t.save r.path text = (t', .ok ()) := by
  obtain ⟨l, hlocate, hl⟩ := h.file
  exact ⟨_, FileTree.save_ok h.parent hlocate hl text⟩

private theorem calendar_eq (r : ExportRequest) : r.calendar =
    match ExportFormat.ofName? r.format with
    | none => .error (.command (.unknownFormat r.format))
    | some format =>
      (Quantity.year.read r.year).map fun year ↦ (format, YearCalendar.ofYear r.text year) := by
  rw [calendar]
  cases ExportFormat.ofName? r.format with
  | none => rfl
  | some format =>
    simp only [YearCalendar.ofText_eq]
    cases Quantity.year.read r.year <;> rfl

section

variable {r : ExportRequest}
  (hprodid : r.settings.prodid = "-//Business Calendar Generator//EN")
  (hdomain : r.settings.uidDomain = "business-calendar.com")
include hprodid hdomain

/-- What is written of a year's events is what the format makes of them, and is read as as many
events. -/
theorem render_ofYear (format : ExportFormat) {year : Int} (hyear : 1000 ≤ year ∧ year ≤ 9998) :
    ∃ text, r.render format (YearCalendar.ofYear r.text year) = .ok text ∧
      r.IsRendered format year (YearCalendar.ofYear r.text year).schedule.events text ∧
      format.recordCount (Utf8.encode text) =
        some (YearCalendar.ofYear r.text year).schedule.events.length := by
  cases format with
  | csv => exact ⟨_, rfl, rfl, ExportFormat.recordCount_csv _⟩
  | ics =>
    have hread : ∀ e ∈ (YearCalendar.ofYear r.text year).schedule.events, ICalendar.IsReadable e :=
      fun e he ↦ ICalendar.isReadable_of_mem_found hyear (YearCalendar.mem_events_ofYear he)
    have hrender : ∃ text, r.render .ics (YearCalendar.ofYear r.text year) = .ok text ∧
        ExportFormat.ics.recordCount (Utf8.encode text) =
          some (YearCalendar.ofYear r.text year).schedule.events.length :=
      ExportFormat.recordCount_ics hprodid hdomain hread
    obtain ⟨text, htext, hcount⟩ := hrender
    exact ⟨text, htext, htext, hcount⟩

/-- An export is made as asked for, or something stands in its way and nothing but directories is
added. -/
theorem run_cases (t : FileTree) :
    (∃ t' e, r.run t = (t', .ok e) ∧ r.IsExported t t' e) ∨
      ∃ t' f, r.run t = (t', .error f) ∧ ¬ r.IsUnhindered t ∧ t.AddsDirectories t' := by
  rw [run, calendar_eq]
  cases hformat : ExportFormat.ofName? r.format with
  | none =>
    refine .inr ⟨t, _, rfl, fun h ↦ ?_, .refl t⟩
    obtain ⟨format, hnamed⟩ := h.format
    rw [ExportFormat.ofName?_eq_some_iff.mpr hnamed] at hformat
    cases hformat
  | some format =>
    cases hyear : Quantity.year.read r.year with
    | error f =>
      refine .inr ⟨t, f, rfl, fun h ↦ ?_, .refl t⟩
      obtain ⟨year, hread⟩ := h.year
      rw [Quantity.read_eq_ok_iff.mpr hread] at hyear
      cases hyear
    | ok year =>
      have hbounds := YearCalendar.year_bounds hyear
      have hyear' : 1 ≤ year ∧ year ≤ 9998 := by omega
      have hyear'' : 1000 ≤ year ∧ year ≤ 9998 := by omega
      have hc : YearCalendar.ofText r.text r.year = .ok (YearCalendar.ofYear r.text year) := by
        rw [YearCalendar.ofText_eq, hyear]
        rfl
      obtain ⟨text, htext, hrendered, hcount⟩ := render_ofYear hprodid hdomain format hyear''
      -- the text is there before the first directory is made: only saving it can fail
      simp only [Except.map, write, htext]
      cases t.save_cases r.path text with
      | inl hsaved =>
        obtain ⟨t', hsave, hsaved⟩ := hsaved
        simp only [hsave]
        exact .inl ⟨t', _, rfl, rfl, ExportFormat.ofName?_eq_some_iff.mp hformat, year, _, text,
          hyear, hc, Schedule.ofLines_eq_ok hyear' _, htext, hrendered, rfl, hsaved, hcount⟩
      | inr hfailed =>
        obtain ⟨t', e, hsave, hadds⟩ := hfailed
        have hhindered : ¬ r.IsUnhindered t := by
          intro h
          obtain ⟨t'', hok⟩ := h.save_ok text
          rw [hsave] at hok
          cases hok
        simp only [hsave]
        exact .inr ⟨t', _, rfl, hhindered, hadds⟩

end

/-- Doing an export makes it in the files, and of the session changes only what is told. -/
theorem outcome_makeExport (r : ExportRequest) (w : World) (s : Session) :
    ∃ stderr, (CalendarApp.makeExport r).outcome w s =
      ((r.run s.files).2.mapError .failure, { s with files := (r.run s.files).1, stderr }) := by
  rw [CalendarApp.makeExport, run]
  cases r.calendar with
  | error f => exact ⟨s.stderr, rfl⟩
  | ok found =>
    obtain ⟨format, c⟩ := found
    obtain ⟨told, hlogs⟩ := Action.exists_outcome_forM_log c.logLines w s
    rw [Action.outcome_bind_ok (Action.outcome_ofResult_ok _ w s), Action.outcome_bind_ok hlogs,
      Action.outcome_bind_ok (Action.outcome_get w _)]
    simp only
    cases r.write format c s.files with
    | mk files outcome =>
      cases outcome with
      | error f => exact ⟨s.stderr ++ told, rfl⟩
      | ok e =>
        obtain ⟨written, hlog⟩ := Action.exists_outcome_log (r.writtenLine format) w
          { s with files := files, stderr := s.stderr ++ told }
        refine ⟨s.stderr ++ told ++ written, ?_⟩
        rw [Action.outcome_bind_ok (Action.outcome_modify _ w _),
          Action.outcome_bind_ok (Action.outcome_ofResult_ok e w _), Action.outcome_bind_ok hlog]
        rfl

/-- An export ends in an envelope. Of a success the file holds the year's events, as many as are
told, and the other files stay; of a failure all files stay, and something stood in its way. -/
theorem process_makeExport (r : ExportRequest)
    (hprodid : r.settings.prodid = "-//Business Calendar Generator//EN")
    (hdomain : r.settings.uidDomain = "business-calendar.com") (w : World) (s : Session) :
    (∃ e s', (CalendarApp.makeExport r).process.outcome w s =
          (.ok { status := "success", payload := some e }, s') ∧
        r.IsExported s.files s'.files e) ∨
      ∃ (f : Failure) (s' : Session), (CalendarApp.makeExport r).process.outcome w s =
          (.ok { status := "error", diagnostics :=
            { message := some (.text f.message), code := f.code?.map Value.int } }, s') ∧
        ¬ r.IsUnhindered s.files ∧ s.files.AddsDirectories s'.files := by
  obtain ⟨stderr, hexport⟩ := outcome_makeExport r w s
  cases run_cases hprodid hdomain s.files with
  | inl hmade =>
    obtain ⟨t, e, hrun, hmade⟩ := hmade
    refine .inl ⟨e, { s with files := t, stderr }, ?_, hmade⟩
    rw [Action.outcome_process, hexport, hrun]
    rfl
  | inr hfailed =>
    obtain ⟨t, f, hrun, hhindered, hadds⟩ := hfailed
    refine .inr ⟨f, { s with files := t, stderr }, ?_, hhindered, hadds⟩
    rw [Action.outcome_process, hexport, hrun]
    rfl

/-- An export into a directory that is missing, beside a file that is there. -/
theorem process_makeExport_missing_directory :
    let stamp : Moment := ⟨⟨738000, by decide, by decide⟩, 12, 0, 0⟩
    let r : ExportRequest :=
      { text := "Audit; \"A\", B - december 31".toList
        year := .int 2026
        format := "csv"
        path := Path.ofText "out/2026/c.csv"
        settings := {}
        stamp }
    let w : World := ⟨⟨[], []⟩, stamp.clock, {}⟩
    let s : Session := { files := ⟨[(["home"], .directory), (["home", "x"], .file [1])], ["home"]⟩ }
    let text := "Month,Date,Day,Event Name,Notes\n\"December\",\"2026-12-31\",\"Thursday\"," ++
      "\"Audit; \"\"A\"\", B\",\"december 31\""
    (r.settings.prodid = "-//Business Calendar Generator//EN" ∧
        r.settings.uidDomain = "business-calendar.com") ∧
      ∃ e s', (CalendarApp.makeExport r).process.outcome w s =
          (.ok { status := "success", payload := some e }, s') ∧
        r.IsExported s.files s'.files e ∧ e.count = 1 ∧
        s'.files.get? ["home", "out", "2026", "c.csv"] = some (.file (Utf8.encode text.toList)) := by
  intro stamp r w s text
  have hevaluated :
      let outcome := (CalendarApp.makeExport r).process.outcome w s
      (outcome.1.toOption.bind (·.payload)).map (·.count) = some 1 ∧
        outcome.2.files.get? ["home", "out", "2026", "c.csv"] =
          some (.file (Utf8.encode text.toList)) := by
    decide +kernel
  obtain ⟨hcount, hfile⟩ := hevaluated
  refine ⟨⟨rfl, rfl⟩, ?_⟩
  obtain ⟨e, s', hrun, hexported⟩ | ⟨f, s', hrun, -⟩ := process_makeExport r rfl rfl w s
  · rw [hrun] at hcount hfile
    exact ⟨e, s', hrun, hexported, Option.some.inj hcount, hfile⟩
  · rw [hrun] at hcount
    cases hcount

end ExportRequest

end RuleCalendar
