import RuleCalendar.Proofs.Export.Csv
import RuleCalendar.Proofs.Export.Grid
import RuleCalendar.Proofs.Schedule.DayGroups

/-!
# What a month grid shows

The rows of a grid are read word by word and the lines under it entry by entry. Main statement: away
from the ends of the calendar, the rows of a month hold one token for each of its days, in order and
parted before the Sundays, that tells whether the date is today or the date of an event; under them
stand the events of the month by date, and under the twelve months of a year each event of the year.
-/

namespace RuleCalendar.Grid

/-! ### Tokens -/

/-- What a grid shows of a date: its day, between brackets if it is today and else with a star if it
is the date of an event. -/
def token (events : List Event) (today : Option Date) (d : Date) : List Char :=
  if today = some d then '[' :: Text.integer d.day ++ [']']
  else if ∃ e ∈ events, e.date = d then Text.integer d.day ++ ['*']
  else Text.integer d.day

/-- A day of a month is marked if an event has the very date. -/
theorem isMarked_iff {year month : Int} {d : Date} (hd : d.InMonth year month)
    (events : List Event) : isMarked year month events d.day = true ↔ ∃ e ∈ events, e.date = d := by
  simp only [isMarked, eventsOfMonth, List.any_eq_true, List.mem_filter, Bool.and_eq_true,
    beq_iff_eq]
  constructor
  · rintro ⟨e, ⟨he, hmonth⟩, hday⟩
    exact ⟨e, he, Date.InMonth.eq_of_day_eq hmonth hd hday⟩
  · rintro ⟨e, he, rfl⟩
    exact ⟨e, ⟨he, hd⟩, rfl⟩

private theorem cellText_eq_token {year month : Int} {d : Date} (hd : d.InMonth year month)
    (events : List Event) (today : Option Date) :
    cellText (isMarked year month events) today d = token events today d := by
  simp only [cellText, token, isMarked_iff hd]

section

variable (marked : Int → Bool) (today : Option Date)

private theorem isOneWord_cellText (d : Date) : Text.IsOneWord (cellText marked today d) := by
  have hday := Text.isOneWord_integer d.day
  have hopen : Text.IsOneWord ['['] := by decide
  have hclose : Text.IsOneWord [']'] := by decide
  have hstar : Text.IsOneWord ['*'] := by decide
  rw [cellText]
  split
  · exact (hopen.append hday).append hclose
  · split
    · exact hday.append hstar
    · exact hday

/-- The cells of other months are blank. -/
theorem words_cell (month : Int) (d : Date) : Text.words (cell month marked today d) =
    if d.month = month then [cellText marked today d] else [] := by
  have hspaces (n : Nat) : ∀ c ∈ Text.spaces n, Text.isBlank c = true := by
    intro c hc
    rw [List.eq_of_mem_replicate hc]
    rfl
  rw [cell]
  split
  · rw [Text.padLeft, Text.words_blanks_append (hspaces _),
      Text.words_of_isOneWord (isOneWord_cellText marked today d)]
  · have hwords := Text.words_append_blanks (hspaces cellWidth) []
    rwa [List.nil_append, Text.words.eq_1] at hwords

private theorem words_weekLine (month : Int) (week : List Date) :
    Text.words (weekLine month marked today week) =
      (week.filter (·.month = month)).map (cellText marked today) := by
  have hcells : (week.flatMap fun d ↦ Text.words (cell month marked today d)) =
      (week.filter (·.month = month)).map (cellText marked today) := by
    induction week with
    | nil => rfl
    | cons d week ih =>
      rw [List.flatMap_cons, ih, words_cell, List.filter_cons]
      by_cases hd : d.month = month <;> simp [hd]
  have hline : weekLine month marked today week =
      Text.stripEnd ([' '].intercalate (week.map (cell month marked today))) := rfl
  rw [hline, Text.words_stripEnd, Text.words_intercalate_space, List.flatMap_map, hcells]

end

/-- Whether rows hold, word by word, a token for each day of a month in order, one row from one
Sunday to the next. -/
def AreRowsOf (year month : Int) (events : List Event) (today : Option Date)
    (rows : List (List Char)) : Prop :=
  ∃ ds, AscendingListOf ds (·.InMonth year month) ∧
    ds.map Date.day = numbersFrom 1 (lengthOfMonth year month).toNat ∧
    rows.map Text.words =
      (ds.splitBy fun _ d ↦ d.weekday ≠ 6).map (·.map (token events today))

private theorem areRowsOf_weeks {year month : Int} (hy : 2 ≤ year ∧ year ≤ 9998)
    (hm : 1 ≤ month ∧ month ≤ 12) (events : List Event) (today : Option Date) {ds : List Date}
    (h : ds.map Date.number = numbersFrom (firstSunday year month) (7 * weekCount year month)) :
    AreRowsOf year month events today
      ((weeks ds).map (weekLine month (isMarked year month events) today)) := by
  have hasc := ascendingListOf_filter_month hy hm h
  refine ⟨_, hasc, map_day_eq (by omega) hm hasc, ?_⟩
  rw [← filter_weeks hy hm h, List.map_map, List.map_map]
  apply List.map_congr_left
  intro week hweek
  simp only [Function.comp_apply, words_weekLine]
  apply List.map_congr_left
  intro d hd
  apply cellText_eq_token ((hasc.mem_iff d).mp _)
  rw [List.mem_filter] at hd ⊢
  refine ⟨?_, hd.2⟩
  rw [← flatten_weeks ds]
  exact List.mem_flatten_of_mem hweek hd.1

/-! ### Entries -/

/-- Whether a line tells an event: its day, to the right of two columns, two spaces and its name. -/
def IsEntry (line : List Char) (e : Event) : Prop :=
  ∃ n, n + (Text.integer e.date.day).length = 2 ∧
    line = Text.spaces n ++ Text.integer e.date.day ++ [' ', ' '] ++ (e.name.getD "None").toList

/-- Whether what stands under a grid tells events, after a blank line if there are any. -/
inductive IsLegend : List (List Char) → List Event → Prop
  | none : IsLegend [] []
  | some {lines : List (List Char)} {entries : List Event} : entries ≠ [] →
      List.Forall₂ IsEntry lines entries → IsLegend ([] :: lines) entries

private theorem isEntry_legendLine (e : Event) : IsEntry (legendLine e) e := by
  have hlength := length_integer_day e.date
  refine ⟨2 - (Text.integer e.date.day).length, ?_, rfl⟩
  split at hlength <;> omega

private theorem eventsOfMonth_eq (year month : Int) (events : List Event) :
    eventsOfMonth year month events = events.filter fun e ↦ e.date.InMonth year month := by
  apply List.filter_congr
  intro e _
  rw [Bool.eq_iff_iff, Bool.and_eq_true, beq_iff_eq, beq_iff_eq, decide_eq_true_eq]
  exact Iff.rfl

/-- The events of a month by date. -/
def entriesOf (year month : Int) (events : List Event) : List Event :=
  Event.sortByDate (events.filter fun e ↦ e.date.InMonth year month)

private theorem inMonth_of_mem_entriesOf {year month : Int} {events : List Event} {e : Event}
    (he : e ∈ entriesOf year month events) : e.date.InMonth year month := by
  rw [entriesOf, Event.mem_sortByDate, List.mem_filter] at he
  exact of_decide_eq_true he.2

private theorem isLegend_legendLines (year month : Int) (events : List Event) :
    IsLegend (legendLines year month events) (entriesOf year month events) := by
  have hentries : entriesOf year month events =
      Event.sortByDate (eventsOfMonth year month events) := by
    rw [entriesOf, eventsOfMonth_eq]
  have hempty : Event.sortByDate (eventsOfMonth year month events) = [] ↔
      eventsOfMonth year month events = [] := Event.sortByDate_eq_nil_iff
  rw [hentries, legendLines]
  split
  · next hnone =>
    rw [hempty.mpr (List.isEmpty_iff.mp hnone)]
    exact .none
  · next hsome =>
    refine .some (fun hnil ↦ hsome (List.isEmpty_iff.mpr (hempty.mp hnil))) ?_
    rw [List.forall₂_map_left_iff, List.forall₂_same]
    exact fun e _ ↦ isEntry_legendLine e

/-- Whether a text shows a month: under a title and the names of the weekdays its rows, and under
these the entries of some events. -/
def ShowsMonth (year month : Int) (events : List Event) (today : Option Date) (text : List Char)
    (entries : List Event) : Prop :=
  ∃ title rows below, text = ['\n'].intercalate (title :: header :: rows ++ below) ∧
    (∀ line ∈ title :: header :: rows, '\n' ∉ line) ∧
    AreRowsOf year month events today rows ∧ IsLegend below entries

/-- Away from the ends of the calendar every month is shown, with or without its events. -/
theorem renderMonth_ok {year month : Int} (hy : 2 ≤ year ∧ year ≤ 9998)
    (hm : 1 ≤ month ∧ month ≤ 12) (events : List Event) (today : Option Date) (legend : Bool) :
    ∃ text, renderMonth year month events today legend = .ok text ∧
      ShowsMonth year month events today text
        (if legend then entriesOf year month events else []) := by
  obtain ⟨ds, hds, hnumbers⟩ := coveringDates_ok hy hm
  obtain ⟨name, hname, hbreak⟩ := exists_monthName hm
  let rows := (weeks ds).map (weekLine month (isMarked year month events) today)
  let below := if legend then legendLines year month events else []
  have hlines : monthLines year month events today legend =
      .ok (titleLine year name :: header :: rows ++ below) := by
    rw [monthLines, hname, ok_bind, weekLines, hds]
    rfl
  refine ⟨_, ?_, titleLine year name, rows, below, rfl, ?_,
    areRowsOf_weeks hy hm events today hnumbers, ?_⟩
  · rw [renderMonth, hlines]
    rfl
  · simp only [List.forall_mem_cons]
    refine ⟨not_mem_titleLine hbreak year, by decide, ?_⟩
    intro l hl
    obtain ⟨week, -, rfl⟩ := List.mem_map.mp hl
    exact not_mem_weekLine month _ today week
  · cases legend with
    | false => exact .none
    | true => exact isLegend_legendLines year month events

/-! ### Years -/

private theorem filter_date_entriesOf (year : Int) (events : List Event) (d : Date) :
    (Schedule.months.flatMap (entriesOf year · events)).filter (·.date = d) =
      (events.filter fun e ↦ e.date.year = year).filter (·.date = d) := by
  rw [Event.filter_flatMap_of_mem (by decide) (Schedule.mem_months_iff.mpr d.month_bounds),
    entriesOf, Event.filter_date_sortByDate, List.filter_filter, List.filter_filter]
  · apply List.filter_congr
    intro e _
    rw [Bool.eq_iff_iff]
    simp only [Bool.and_eq_true, decide_eq_true_eq]
    constructor
    · exact fun h ↦ ⟨h.1, h.2.1⟩
    · exact fun h ↦ ⟨h.1, h.2, congrArg Date.month h.1⟩
  · -- no other month has an event on the day
    intro month hother
    rw [List.filter_eq_nil_iff]
    intro e he hdate
    rw [decide_eq_true_eq] at hdate
    rw [← hdate, (inMonth_of_mem_entriesOf he).2] at hother
    exact hother rfl

/-- The events of the months of a year, each month's by date, are those of the year by date. -/
theorem isStableSort_months (year : Int) (events : List Event) :
    Csv.IsStableSort (events.filter fun e ↦ e.date.year = year)
      (Schedule.months.flatMap (entriesOf year · events)) where
  perm := Event.perm_of_filter_date_eq (filter_date_entriesOf year events)
  by_date := by
    have hmonths : Schedule.months.Pairwise (· < ·) := by decide
    rw [List.pairwise_flatMap]
    refine ⟨fun month _ ↦ Event.sortByDate_sorted _, hmonths.imp fun hlt e he f hf ↦ ?_⟩
    exact Int.le_of_lt
      (Date.lt_of_month_lt (inMonth_of_mem_entriesOf he) (inMonth_of_mem_entriesOf hf) hlt)
  stable := filter_date_entriesOf year events

/-- Away from the ends of the calendar, every month of a year is shown, with all of its events by
date where they are wanted; a year is shown month by month, with all of its events by date. -/
theorem renderYear_shows {year : Int} (hy : 2 ≤ year ∧ year ≤ 9998) (events : List Event)
    (today : Option Date) :
    (∀ month, 1 ≤ month ∧ month ≤ 12 → ∀ legend, ∃ text entries,
      renderMonth year month events today legend = .ok text ∧
      ShowsMonth year month events today text entries ∧
      Csv.IsStableSort (if legend then events.filter fun e ↦ e.date.InMonth year month else [])
        entries) ∧
    ∃ pages : List (List Char × List Event),
      renderYear year events today = .ok (['\n', '\n'].intercalate (pages.map (·.1))) ∧
      List.Forall₂ (fun month page ↦ renderMonth year month events today true = .ok page.1 ∧
        ShowsMonth year month events today page.1 page.2) Schedule.months pages ∧
      Csv.IsStableSort (events.filter fun e ↦ e.date.year = year) (pages.flatMap (·.2)) := by
  constructor
  · intro month hm legend
    obtain ⟨text, htext, hshows⟩ := renderMonth_ok hy hm events today legend
    refine ⟨text, _, htext, hshows, ?_⟩
    cases legend with
    | false => exact ⟨.nil, .nil, fun _ ↦ rfl⟩
    | true => exact Csv.isStableSort_sortByDate _
  · have hall : ∀ month ∈ Schedule.months, ∃ text,
        renderMonth year month events today true = .ok text ∧
        ShowsMonth year month events today text (entriesOf year month events) :=
      fun month hmonth ↦ renderMonth_ok hy (Schedule.month_bounds hmonth) events today true
    choose! text htext using hall
    refine ⟨Schedule.months.map fun month ↦ (text month, entriesOf year month events), ?_, ?_, ?_⟩
    · have hmonths : Schedule.months.mapM (renderMonth year · events today true) =
          .ok (Schedule.months.map text) := mapM_eq_ok fun month hmonth ↦ (htext month hmonth).1
      have hrender : renderYear year events today =
          Schedule.months.mapM (renderMonth year · events today true) >>= fun texts ↦
            .ok (['\n', '\n'].intercalate texts) := rfl
      rw [hrender, hmonths, ok_bind, List.map_map]
      rfl
    · rw [List.forall₂_map_right_iff, List.forall₂_same]
      exact htext
    · rw [List.flatMap_map]
      exact isStableSort_months year events

/-- Two events out of order in March 2026, and one in March of the year before that is not shown. -/
theorem renderYear_shows_march :
    let early : Date := ⟨739681, by decide, by decide⟩
    let late : Date := ⟨739706, by decide, by decide⟩
    let before : Date := ⟨739330, by decide, by decide⟩
    let today : Option Date := some ⟨739690, by decide, by decide⟩
    let close : Event := ⟨"0-3", some "Close", late, none⟩
    let audit : Event := ⟨"1-3", some "Audit", early, none⟩
    let events : List Event := [close, audit, ⟨"0-3", some "Close", before, none⟩]
    ((2 : Int) ≤ 2026 ∧ (2026 : Int) ≤ 9998) ∧
      [6, 15, 20].map (fun day ↦ (Date.of 2026 3 day).toOption.map (token events today)) =
        [some "6*".toList, some "[15]".toList, some "20".toList] ∧
      (∃ text entries, renderMonth 2026 3 events today true = .ok text ∧
        ShowsMonth 2026 3 events today text entries ∧
        Csv.IsStableSort [close, audit] entries) ∧
      ∃ pages : List (List Char × List Event),
        renderYear 2026 events today = .ok (['\n', '\n'].intercalate (pages.map (·.1))) ∧
        List.Forall₂ (fun month page ↦ renderMonth 2026 month events today true = .ok page.1 ∧
          ShowsMonth 2026 month events today page.1 page.2) Schedule.months pages ∧
        Csv.IsStableSort [close, audit] (pages.flatMap (·.2)) := by
  intro early late before today close audit events
  have hyear : (2 : Int) ≤ 2026 ∧ (2026 : Int) ≤ 9998 := by decide
  obtain ⟨hmonths, hpages⟩ := renderYear_shows hyear events today
  have hmarch := hmonths 3 (by decide) true
  have hown : (events.filter fun e ↦ e.date.InMonth 2026 3) = [close, audit] := by decide
  have hall : (events.filter fun e ↦ e.date.year = 2026) = [close, audit] := by decide
  rw [if_pos rfl, hown] at hmarch
  rw [hall] at hpages
  exact ⟨hyear, by decide, hmarch, hpages⟩

end RuleCalendar.Grid
