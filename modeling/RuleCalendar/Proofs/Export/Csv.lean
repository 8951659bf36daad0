import RuleCalendar.Export.Csv
import RuleCalendar.Proofs.Schedule.Discovery
import RuleCalendar.Proofs.Text.Decimal
import RuleCalendar.Proofs.Text.Lines

/-!
# Reading comma-separated text

Records are separated by line feeds and fields by commas; a field between double quotes may hold
both, and double quotes written twice. Main statement: what is read of exported events is the header
and one record per event, by date, whatever is in their names and notes; and if the events are those
of a rules text, a record is a line.
-/

namespace RuleCalendar

namespace Csv

/-! ### The reader -/

/-- The fields of a record. -/
abbrev Record := List (List Char)

/-- Where in a text of records a reader stands. -/
inductive Mode where
  /-- Before a record. -/
  | record
  /-- Before a field that is not the first of its record. -/
  | field
  /-- In a field without quotes. -/
  | plain
  /-- Between quotes. -/
  | quoted
  /-- After a quote that ends a field, unless another quote follows. -/
  | closed
  deriving DecidableEq, Repr

/-- The records with a character put before the first field. -/
def push (c : Char) : List Record → List Record
  | (f :: fs) :: rs => ((c :: f) :: fs) :: rs
  | rs => rs

/-- The records with an empty field put before the first. -/
def pushField : List Record → List Record
  | r :: rs => ([] :: r) :: rs
  | rs => rs

/-- The records of a text from where the reader stands on, the first of them what is left of the
record that it stands in. -/
def readFrom : Mode → List Char → Option (List Record)
  | .record, [] => some []
  | .quoted, [] => none
  | _, [] => some [[[]]]
  | .quoted, c :: s =>
    if c = '"' then readFrom .closed s else (readFrom .quoted s).map (push c)
  | mode, c :: s =>
    if c = ',' then (readFrom .field s).map pushField
    else if c = '\n' then (readFrom .record s).map ([[]] :: ·)
    else if c = '"' then
      match mode with
      | .closed => (readFrom .quoted s).map (push c)
      | .plain => none
      | _ => readFrom .quoted s
    else if mode = .closed then none
    else (readFrom .plain s).map (push c)

/-- The records of a text, if it is well-formed. -/
def read (s : List Char) : Option (List Record) := readFrom .record s

/-! ### Fields -/

/-- Whether a text begins with the end of a field. -/
def AtFieldEnd (s : List Char) : Prop := s.head? ∈ [none, some ',', some '\n']

/-- Whether a text is read as a field, whatever follows its end. -/
def ReadsAs (text value : List Char) : Prop :=
  ∀ mode ∈ [Mode.record, .field], ∀ rest, AtFieldEnd rest → ∀ r rs,
    readFrom .closed rest = some (([] :: r) :: rs) →
      readFrom mode (text ++ rest) = some ((value :: r) :: rs)

/-- After the end of a field it does not matter whether the field was quoted. -/
theorem AtFieldEnd.readFrom_plain {s : List Char} (h : AtFieldEnd s) :
    readFrom .plain s = readFrom .closed s := by
  cases s with
  | nil => rfl
  | cons c s =>
    simp only [AtFieldEnd, List.head?_cons, List.mem_cons, Option.some.injEq, List.not_mem_nil,
      or_false, reduceCtorEq, false_or] at h
    obtain rfl | rfl := h <;> rfl

/-- A text without marks is read as it is. -/
theorem readsAs_plain {s : List Char} (hne : s ≠ []) (hs : ∀ c ∈ s, c ∉ [',', '\n', '"']) :
    ReadsAs s s := by
  intro mode hmode rest hrest r rs h
  have hstep : ∀ mode ∈ [Mode.record, .field, .plain], ∀ c ∉ [',', '\n', '"'], ∀ t,
      readFrom mode (c :: t) = (readFrom .plain t).map (push c) := by
    intro mode hmode c hc t
    simp only [List.mem_cons, List.not_mem_nil, or_false, not_or] at hmode hc
    obtain rfl | rfl | rfl := hmode <;> simp [readFrom, hc]
  have hplain : ∀ t : List Char, (∀ c ∈ t, c ∉ [',', '\n', '"']) →
      readFrom .plain (t ++ rest) = some ((t :: r) :: rs) := by
    intro t ht
    induction t with
    | nil => rw [List.nil_append, hrest.readFrom_plain, h]
    | cons c t ih =>
      rw [List.cons_append, hstep .plain (by simp) c (ht c List.mem_cons_self),
        ih fun d hd ↦ ht d (List.mem_cons_of_mem c hd)]
      rfl
  cases s with
  | nil => exact absurd rfl hne
  | cons c s =>
    have hmode' : mode ∈ [Mode.record, .field, .plain] := by
      simp only [List.mem_cons, List.not_mem_nil, or_false] at hmode ⊢
      exact hmode.elim .inl fun h ↦ .inr (.inl h)
    rw [List.cons_append, hstep mode hmode' c (hs c List.mem_cons_self),
      hplain s fun d hd ↦ hs d (List.mem_cons_of_mem c hd)]
    rfl

/-- A quoted text is read as what is quoted. -/
theorem readsAs_field (s : List Char) : ReadsAs (field s) s := by
  intro mode hmode rest _ r rs h
  have hquoted : readFrom .quoted ((s.flatMap fun c ↦ if c = '"' then ['"', '"'] else [c]) ++
      '"' :: rest) = some ((s :: r) :: rs) := by
    induction s with
    | nil => simpa [readFrom] using h
    | cons c s ih =>
      rw [List.flatMap_cons, List.append_assoc]
      split
      · next hc =>
        subst hc
        simp only [List.cons_append, List.nil_append, readFrom, ↓reduceIte]
        rw [ih]
        rfl
      · next hc =>
        rw [List.singleton_append, readFrom, if_neg hc, ih]
        rfl
  have hopen : readFrom mode (field s ++ rest) = readFrom .quoted
      ((s.flatMap fun c ↦ if c = '"' then ['"', '"'] else [c]) ++ '"' :: rest) := by
    simp only [field, List.cons_append, List.append_assoc]
    simp only [List.mem_cons, List.not_mem_nil, or_false] at hmode
    obtain rfl | rfl := hmode <;> rfl
  rw [hopen, hquoted]

/-! ### Records -/

/-- Whether a text is read as a record, at the end of a text or before a line feed. -/
def ReadsAsRecord (text : List Char) (r : Record) : Prop :=
  ∀ rest, rest.head? ∈ [none, some '\n'] → ∀ rs, readFrom .closed rest = some ([[]] :: rs) →
    readFrom .record (text ++ rest) = some (r :: rs)

/-- Fields that are joined with commas are read as a record. -/
theorem readsAsRecord_intercalate {write : List Char → List Char} {r : Record} (hne : r ≠ [])
    (h : ∀ f ∈ r, ReadsAs (write f) f) : ReadsAsRecord ([','].intercalate (r.map write)) r := by
  intro rest hrest rs hrs
  have hend : AtFieldEnd rest := by
    simp only [AtFieldEnd, List.mem_cons, List.not_mem_nil, or_false] at hrest ⊢
    exact hrest.imp_right .inr
  have hrecord : ∀ mode ∈ [Mode.record, .field],
      readFrom mode ([','].intercalate (r.map write) ++ rest) = some (r :: rs) := by
    induction r with
    | nil => exact absurd rfl hne
    | cons f fs ih =>
      intro mode hmode
      have hf := h f List.mem_cons_self mode hmode
      cases fs with
      | nil =>
        rw [List.map_singleton, List.intercalate_singleton]
        exact hf rest hend [] rs hrs
      | cons g fs =>
        have hfields := ih (List.cons_ne_nil g fs) (fun e he ↦ h e (List.mem_cons_of_mem f he))
          .field (by simp)
        rw [List.map_cons, List.map_cons, List.intercalate_cons_cons, List.append_assoc,
          List.append_assoc, List.singleton_append]
        refine hf _ (by simp [AtFieldEnd]) (g :: fs) rs ?_
        rw [← List.map_cons, readFrom, if_pos rfl, hfields]
        rfl
  exact hrecord .record (by simp)

/-- Records that are joined with line feeds are read one by one. -/
theorem read_intercalate {texts : List (List Char)} {rs : List Record}
    (h : List.Forall₂ ReadsAsRecord texts rs) (hne : texts ≠ []) :
    read (['\n'].intercalate texts) = some rs := by
  induction h with
  | nil => exact absurd rfl hne
  | @cons text r texts rs hr hrest ih =>
    cases hrest with
    | nil =>
      have hlast := hr [] (by simp) [] rfl
      rw [List.append_nil] at hlast
      rwa [List.intercalate_singleton]
    | cons hr' hrest' =>
      rw [List.intercalate_cons_cons, List.append_assoc, List.singleton_append]
      refine hr _ (by simp) _ ?_
      have htail := ih (List.cons_ne_nil _ _)
      rw [read] at htail
      rw [readFrom, if_neg (by decide), if_pos rfl, htail]
      rfl

/-! ### Exported events -/

private theorem written_eq (events : List Event) : written events =
    ['\n'].intercalate (header :: (Event.sortByDate events).map record) ++ ['\n'] := by
  have hjoin : ∀ (l : List Char) (ls : List (List Char)), (l :: ls).flatMap (· ++ ['\n']) =
      ['\n'].intercalate (l :: ls) ++ ['\n'] := by
    intro l ls
    induction ls generalizing l with
    | nil => simp
    | cons m ls ih =>
      rw [List.flatMap_cons, ih, List.intercalate_cons_cons]
      simp only [List.append_assoc]
  exact hjoin _ _

private theorem record_endsWithoutBreak (e : Event) : Text.EndsWithoutBreak (record e) := by
  refine Text.endsWithoutBreak_intercalate (by simp [fields]) fun l hl ↦ ?_
  obtain ⟨s, -, rfl⟩ := List.mem_map.mp hl
  exact ⟨_, '"', by decide, rfl⟩

/-- Of the text written, only the last line feed is taken off. -/
theorem render_eq (events : List Event) : render events =
    ['\n'].intercalate (header :: (Event.sortByDate events).map record) := by
  rw [render, written_eq]
  refine Text.trimFinalBreaks_append_break
    (Text.endsWithoutBreak_intercalate (by simp) fun l hl ↦ ?_)
  obtain rfl | hl := List.mem_cons.mp hl
  · exact ⟨"Month,Date,Day,Event Name,Note".toList, 's', by decide, by decide⟩
  · obtain ⟨e, -, rfl⟩ := List.mem_map.mp hl
    exact record_endsWithoutBreak e

/-- What is read of exported events. -/
theorem read_render (events : List Event) : read (render events) =
    some (columns.map String.toList :: (Event.sortByDate events).map fields) := by
  have hcolumns : ∀ f ∈ columns.map String.toList,
      f ≠ [] ∧ f.all (fun c ↦ c ∉ [',', '\n', '"']) = true := by
    decide
  have hheader : ReadsAsRecord header (columns.map String.toList) := by
    rw [header, ← List.map_id (columns.map String.toList)]
    refine readsAsRecord_intercalate (by decide) fun f hf ↦ ?_
    obtain ⟨hne, hmarks⟩ := hcolumns f hf
    exact readsAs_plain hne fun c hc ↦ of_decide_eq_true (List.all_eq_true.mp hmarks c hc)
  rw [render_eq]
  refine read_intercalate (.cons hheader ?_) (List.cons_ne_nil _ _)
  rw [List.forall₂_map_left_iff, List.forall₂_map_right_iff, List.forall₂_same]
  intro e _
  exact readsAsRecord_intercalate (List.cons_ne_nil _ _) fun f _ ↦ readsAs_field f

/-! ### Exported events as lines -/

private theorem not_isLineEnd_of_isDigit {c : Char} (h : c.isDigit = true) : Text.isLineEnd c = false := by
  have hrange : 48 ≤ c.toNat ∧ c.toNat ≤ 57 := by
    simpa [Char.isDigit, UInt32.le_iff_toNat_le] using h
  simp [Text.isLineEnd]
  omega

private theorem getD_mem (names : List String) (n : Nat) : names.getD n "" ∈ "" :: names := by
  rw [List.getD_eq_getElem?_getD]
  cases h : names[n]? with
  | none => exact List.mem_cons_self
  | some name => exact List.mem_cons_of_mem "" (List.mem_of_getElem? h)

private theorem unbroken_dashed (d : Date) : Text.Unbroken d.dashed.toList := by
  have hdigits : ∀ width n, Text.Unbroken (Date.digits width n) :=
    fun _ _ _ hc ↦ not_isLineEnd_of_isDigit (Text.isDigit_of_mem_zeroPadded hc)
  have hmark : Text.isLineEnd '-' = false := by decide
  simp only [Date.dashed, String.toList_ofList, Text.unbroken_append, Text.unbroken_cons]
  exact ⟨⟨hdigits _ _, hmark, hdigits _ _⟩, hmark, hdigits _ _⟩

private theorem unbroken_field {s : List Char} (h : Text.Unbroken s) : Text.Unbroken (field s) := by
  have hquote : Text.isLineEnd '"' = false := by decide
  simp only [field, Text.unbroken_append, Text.unbroken_cons]
  refine ⟨⟨hquote, ?_⟩, hquote, nofun⟩
  intro d hd
  obtain ⟨c, hc, hdc⟩ := List.mem_flatMap.mp hd
  split at hdc
  · simp only [List.mem_cons, List.not_mem_nil, or_false, or_self] at hdc
    rw [hdc, hquote]
  · rw [List.mem_singleton.mp hdc, h c hc]

/-- Where no line ends in the name and the note of an event, none ends in its record. -/
theorem unbroken_record {e : Event} (hname : Text.Unbroken (e.name.getD "").toList)
    (hnotes : Text.Unbroken (e.notes.getD "").toList) : Text.Unbroken (record e) := by
  have hmonths : ∀ n ∈ "" :: monthNames, Text.Unbroken n.capitalize.toList := by decide
  have hweekdays : ∀ n ∈ "" :: weekdayNames, Text.Unbroken n.capitalize.toList := by decide
  have hfields : ∀ f ∈ fields e, Text.Unbroken f := by
    simp only [fields, List.forall_mem_cons]
    exact ⟨hmonths _ (getD_mem _ _), unbroken_dashed e.date, hweekdays _ (getD_mem _ _), hname,
      hnotes, nofun⟩
  have hcomma : Text.Unbroken [','] := by decide
  refine Text.forall_mem_intercalate hcomma fun l hl ↦ ?_
  obtain ⟨f, hf, rfl⟩ := List.mem_map.mp hl
  exact unbroken_field (hfields f hf)

/-- Where no line ends in their names and their notes, exported events are lines. -/
theorem lines_render {events : List Event}
    (h : ∀ e ∈ events, Text.Unbroken (e.name.getD "").toList ∧
      Text.Unbroken (e.notes.getD "").toList) :
    Text.lines (render events) = header :: (Event.sortByDate events).map record := by
  rw [render_eq]
  refine Text.lines_intercalate fun l hl ↦ ?_
  obtain rfl | hl := List.mem_cons.mp hl
  · exact ⟨by decide, by decide⟩
  · obtain ⟨e, he, rfl⟩ := List.mem_map.mp hl
    obtain ⟨hname, hnotes⟩ := h e (Event.mem_sortByDate.mp he)
    obtain ⟨t, c, -, ht⟩ := record_endsWithoutBreak e
    exact ⟨by simp [ht], unbroken_record hname hnotes⟩

/-! ### The round trip -/

/-- Two decimal digits. -/
def twoDigits (n : Int) : List Char := [(n.toNat / 10).digitChar, (n.toNat % 10).digitChar]

/-- Year, month and day with dashes between them, the month and the day in two digits. -/
def dateText (d : Date) : List Char :=
  (toString d.year).toList ++ '-' :: twoDigits d.month ++ '-' :: twoDigits d.day

/-- Whether a record tells the month, the date, the weekday, the name and the note of an event. -/
def IsRecordOf (e : Event) (r : Record) : Prop :=
  ∃ month weekday, monthNames[(e.date.month - 1).toNat]? = some month ∧
    weekdayNames[e.date.weekday.toNat]? = some weekday ∧
    r = [month.capitalize.toList, dateText e.date, weekday.capitalize.toList,
      (e.name.getD "").toList, (e.notes.getD "").toList]

/-- Whether a text is read as a header and one record per event, in their order. -/
def ReadsBackAs (text : List Char) (events : List Event) : Prop :=
  ∃ records,
    read text = some (["Month", "Date", "Day", "Event Name", "Notes"].map String.toList :: records) ∧
      List.Forall₂ IsRecordOf events records

/-- Whether events are those of a list by date, those of one day in the order of the list. -/
structure IsStableSort (events sorted : List Event) : Prop where
  perm : sorted.Perm events
  by_date : sorted.Pairwise fun e f ↦ e.date ≤ f.date
  stable : ∀ d, sorted.filter (·.date = d) = events.filter (·.date = d)

/-- The events in the order of their dates are a stable sort of them. -/
theorem isStableSort_sortByDate (events : List Event) :
    IsStableSort events (Event.sortByDate events) :=
  ⟨Event.sortByDate_perm events, Event.sortByDate_sorted events,
    Event.filter_date_sortByDate events⟩

private theorem zeroPadded_two {n : Nat} (h : n < 100) :
    Text.zeroPadded 2 n = [(n / 10).digitChar, (n % 10).digitChar] := by
  decide +revert

/-- The date of a record is told in full. -/
theorem toList_dashed (d : Date) : d.dashed.toList = dateText d := by
  have hyear := d.year_bounds
  have hmonth := d.month_bounds
  have hday := d.day_bounds
  have hlength := lengthOfMonth_bounds d.year d.month
  have htext : Date.digits 1 d.year = (toString d.year).toList := by
    obtain ⟨n, hn⟩ := Int.eq_ofNat_of_zero_le (show 0 ≤ d.year by omega)
    have hone : 0 < (Text.decimal n).length := List.length_pos_iff.mpr Nat.toDigits_ne_nil
    have hpadding : 1 - (Text.decimal n).length = 0 := by omega
    rw [hn, Date.digits, Int.toNat_natCast, Text.zeroPadded, hpadding]
    exact Nat.toList_repr.symm
  rw [Date.dashed, String.toList_ofList, htext, Date.digits, Date.digits,
    zeroPadded_two (by omega), zeroPadded_two (by omega)]
  rfl

private theorem isRecordOf_fields (e : Event) : IsRecordOf e (fields e) := by
  have hbounds := e.date.month_bounds
  have hmonth : (e.date.month - 1).toNat < 12 := by omega
  have hweekday : e.date.weekday.toNat < 7 := by
    have hmod := e.date.weekday_eq
    omega
  have hmonthName := List.getElem?_eq_getElem (l := monthNames) hmonth
  have hweekdayName := List.getElem?_eq_getElem (l := weekdayNames) hweekday
  refine ⟨_, _, hmonthName, hweekdayName, ?_⟩
  rw [fields, Event.month, toList_dashed, Date.weekdayName, List.getD_eq_getElem?_getD, hmonthName,
    List.getD_eq_getElem?_getD, hweekdayName, Option.getD_some, Option.getD_some]

private theorem readsBackAs_render (events : List Event) :
    ReadsBackAs (render events) (Event.sortByDate events) := by
  refine ⟨_, read_render events, ?_⟩
  rw [List.forall₂_map_right_iff, List.forall₂_same]
  exact fun e _ ↦ isRecordOf_fields e

/-- No line ends in the names and the notes of the events of a rules text. -/
theorem unbroken_of_mem_found {text : List Char} {year : Int} {e : Event}
    (h : e ∈ Schedule.found (RuleLine.parseAll text).zipIdx year) :
    Text.Unbroken (e.name.getD "").toList ∧ Text.Unbroken (e.notes.getD "").toList := by
  obtain ⟨month, -, line, hline, he⟩ := Schedule.mem_found.mp h
  obtain ⟨d, -, rfl⟩ := List.mem_map.mp he
  exact RuleLine.unbroken_of_mem_parseAll (List.fst_mem_of_mem_zipIdx hline)

/-- What is read of exported events is the header and a record of each event, by date; of the text
written only a line feed at the end is missing. The events of a rules text are exported in their
order, each on one line. -/
theorem render_readsBack (events : List Event) :
    (∃ sorted, IsStableSort events sorted ∧ ReadsBackAs (render events) sorted) ∧
      written events = render events ++ ['\n'] ∧
      ∀ (text : List Char) (year : Int), 1 ≤ year ∧ year ≤ 9998 →
        ∃ s : Schedule, Schedule.ofText text year = .ok s ∧
          ReadsBackAs (render s.events) s.events ∧
          (Text.lines (render s.events)).length = 1 + s.events.length := by
  refine ⟨⟨_, isStableSort_sortByDate events, readsBackAs_render events⟩, ?_, ?_⟩
  · rw [written_eq, render_eq]
  · intro text year hyear
    refine ⟨_, Schedule.ofLines_eq_ok hyear (RuleLine.parseAll text), ?_⟩
    have hsorted := Event.sortByDate_of_sorted (Event.sortByDate_sorted
      (Schedule.found (RuleLine.parseAll text).zipIdx year))
    constructor
    · have hreads := readsBackAs_render (Event.sortByDate
        (Schedule.found (RuleLine.parseAll text).zipIdx year))
      rwa [hsorted] at hreads
    · rw [lines_render fun e he ↦ unbroken_of_mem_found (Event.mem_sortByDate.mp he)]
      simp [hsorted, Nat.add_comm]

/-- Two events of one day out of order, with quotes, commas and line ends in their names and notes,
beside a line with a typographic dash. -/
theorem render_readsBack_marks :
    let day : Date := ⟨738000, by decide, by decide⟩
    let events : List Event :=
      [⟨"1-7", some "Audit \"A\", final\r\n", day, some "\n\n"⟩,
        ⟨"0-7", some "", day, some ",\""⟩]
    (∃ sorted, IsStableSort events sorted ∧ ReadsBackAs (render events) sorted) ∧
      written events = render events ++ ['\n'] ∧
      ∃ s : Schedule, Schedule.ofText "Close – last working day".toList 2024 = .ok s ∧
        ReadsBackAs (render s.events) s.events ∧
        (Text.lines (render s.events)).length = 1 + s.events.length := by
  intro day events
  obtain ⟨hreads, hwritten, hlines⟩ := render_readsBack events
  exact ⟨hreads, hwritten, hlines "Close – last working day".toList 2024 (by decide)⟩

end Csv

end RuleCalendar
