import RuleCalendar.Proofs.Date.Weeks
import RuleCalendar.Proofs.Text.Layout
import RuleCalendar.Proofs.Text.Lines

/-!
# The columns of a month grid

The cells of a week are three columns wide and one column apart, but for the cell of today, which
has a column more where its day has two digits. Main statement: away from the ends of the calendar,
the cell of a date stands under the name of its weekday, unless today is such a day of the same week
and month and not after the date; the later cells of that week stand one column to the right.
-/

namespace RuleCalendar.Grid

/-! ### Places in a row -/

/-- Whether a text stands in a row from one column to another, with nothing but spaces beside it. -/
structure StandsAt (row text : List Char) (first last : Nat) : Prop where
  reads : (row.drop first).take text.length = text
  fills : first + text.length = last + 1
  left : first = 0 ∨ row[first - 1]? = some ' '
  right : row[last + 1]?.getD ' ' = ' '

instance (row text : List Char) (first last : Nat) : Decidable (StandsAt row text first last) :=
  decidable_of_iff ((row.drop first).take text.length = text ∧ first + text.length = last + 1 ∧
      (first = 0 ∨ row[first - 1]? = some ' ') ∧ row[last + 1]?.getD ' ' = ' ')
    ⟨fun ⟨h, h', h'', h'''⟩ ↦ ⟨h, h', h'', h'''⟩, fun h ↦ ⟨h.reads, h.fills, h.left, h.right⟩⟩

/-- A text stands in a row where what is written before it ends. -/
theorem standsAt_append {left text right : List Char} {last : Nat}
    (hleft : left = [] ∨ [' '] <:+ left) (hright : right.head?.getD ' ' = ' ')
    (hlast : left.length + text.length = last + 1) :
    StandsAt (left ++ text ++ right) text left.length last where
  reads := by simp
  fills := hlast
  left := by
    obtain rfl | ⟨start, rfl⟩ := hleft
    · exact Or.inl rfl
    · right
      simp
  right := by
    rw [← hlast, ← List.length_append, List.getElem?_append_right (by omega), Nat.sub_self,
      ← List.head?_eq_getElem?]
    exact hright

private theorem StandsAt.getElem?_eq {row text : List Char} {first last i : Nat}
    (h : StandsAt row text first last) (hi : i < text.length) : row[first + i]? = text[i]? := by
  have hreads := congrArg (·[i]?) h.reads
  simp only [List.getElem?_take, if_pos hi, List.getElem?_drop] at hreads
  exact hreads

/-- A text that ends in a column leaves only a space for what ends in the column after it. -/
theorem StandsAt.eq_space {row text s : List Char} {c : Char} {first first' last : Nat}
    (h : StandsAt row text first last) (h' : StandsAt row (s ++ [c]) first' (last + 1)) :
    c = ' ' := by
  have hfills := h'.fills
  rw [List.length_append, List.length_singleton] at hfills
  have hend : first' + s.length = last + 1 := by omega
  have hc := h'.getElem?_eq (i := s.length) (by simp)
  have hspace := h.right
  rw [hend, List.getElem?_concat_length] at hc
  rwa [hc, Option.getD_some] at hspace

/-! ### Cells -/

/-- Whether a day holds events of a month. -/
def isMarked (year month : Int) (events : List Event) (day : Int) : Bool :=
  (eventsOfMonth year month events).any fun e ↦ e.date.day == day

/-- Whether a date is today and its day has two digits. -/
def IsWide (today : Option Date) (d : Date) : Prop := today = some d ∧ 10 ≤ d.day

instance (today : Option Date) (d : Date) : Decidable (IsWide today d) :=
  inferInstanceAs (Decidable (today = some d ∧ 10 ≤ d.day))

/-- Whether a two-digit today stands in the week and the month of a date and not after the date. -/
def IsCrowded (today : Option Date) (d : Date) : Prop :=
  ∃ t ∈ today, t.month = d.month ∧ 10 ≤ t.day ∧ d.number - column d ≤ t.number ∧ t ≤ d

instance (today : Option Date) (d : Date) : Decidable (IsCrowded today d) :=
  inferInstanceAs (Decidable (∃ t ∈ today, t.month = d.month ∧ 10 ≤ t.day ∧
    d.number - column d ≤ t.number ∧ t.number ≤ d.number))

/-- A day is written in one digit or in two. -/
theorem length_integer_day (d : Date) :
    (Text.integer d.day).length = if 10 ≤ d.day then 2 else 1 := by
  have hday := d.day_bounds
  have hlength := lengthOfMonth_bounds d.year d.month
  rw [Text.integer_of_nonneg (by omega)]
  have htwo : (Text.decimal d.day.natAbs).length ≤ 2 := Text.length_decimal_le_two (by omega)
  have hpos : 0 < (Text.decimal d.day.natAbs).length := Nat.length_toDigits_pos
  have hone : (Text.decimal d.day.natAbs).length ≤ 1 ↔ d.day.natAbs < 10 ^ 1 :=
    Nat.length_toDigits_le_iff (by decide) (by decide)
  split <;> omega

section

variable (marked : Int → Bool) (today : Option Date) {d : Date}

private theorem length_cellText : (cellText marked today d).length =
    (Text.integer d.day).length + if today = some d then 2 else if marked d.day then 1 else 0 := by
  rw [cellText]
  split
  · simp
  · split <;> simp

/-- Cells are three columns wide, the cell of a two-digit today four. -/
theorem length_cell (month : Int) (d : Date) : (cell month marked today d).length =
    if d.month = month ∧ IsWide today d then 4 else 3 := by
  have hday := length_integer_day d
  have htext := length_cellText marked today (d := d)
  rw [cell]
  by_cases hmonth : d.month = month
  · rw [if_pos hmonth, Text.length_padLeft, htext, hday, cellWidth]
    grind [IsWide]
  · rw [if_neg hmonth, if_neg fun h ↦ hmonth h.1]
    rfl

/-- The cell of a date of the month ends in a character that is no blank. -/
theorem exists_cell_concat (d : Date) : ∃ s c, cell d.month marked today d = s ++ [c] ∧
    Text.isBlank c = false := by
  have htext : ∃ s c, cellText marked today d = s ++ [c] ∧ Text.isBlank c = false := by
    rw [cellText]
    split
    · exact ⟨'[' :: Text.integer d.day, ']', rfl, by decide⟩
    · split
      · exact ⟨Text.integer d.day, '*', rfl, by decide⟩
      · have hday := d.day_bounds
        rw [Text.integer_of_nonneg (by omega)]
        exact Text.exists_decimal_concat _
  obtain ⟨s, c, hs, hc⟩ := htext
  refine ⟨Text.spaces (cellWidth - (cellText marked today d).length) ++ s, c, ?_, hc⟩
  rw [cell, if_pos rfl, Text.padLeft, List.append_assoc, ← hs]

/-- The cell of a date of the month shows its day. -/
theorem integer_infix_cell (d : Date) :
    Text.integer d.day <:+: cell d.month marked today d := by
  have htext : Text.integer d.day <:+: cellText marked today d := by
    rw [cellText]
    split
    · exact ⟨['['], [']'], rfl⟩
    · split
      · exact ⟨[], ['*'], rfl⟩
      · exact List.infix_rfl
  rw [cell, if_pos rfl, Text.padLeft]
  exact htext.trans (List.suffix_append _ _).isInfix

/-- The cells of a week before a date, with the space after each, are followed by the cell of the
date and then by nothing or a space. -/
theorem weekLine_append (before after : List Date) (d : Date) : ∃ rest,
    weekLine d.month marked today (before ++ d :: after) =
      before.flatMap (cell d.month marked today · ++ [' ']) ++ cell d.month marked today d ++ rest ∧
    rest.head?.getD ' ' = ' ' := by
  obtain ⟨s, c, hs, hc⟩ := exists_cell_concat marked today d
  let later := (after.map (cell d.month marked today)).flatMap ([' '] ++ ·)
  refine ⟨Text.stripEnd later, ?_, ?_⟩
  · have hline : weekLine d.month marked today (before ++ d :: after) = Text.stripEnd
        ([' '].intercalate ((before ++ d :: after).map (cell d.month marked today))) := rfl
    rw [hline, List.map_append, List.map_cons, Text.intercalate_append_cons, hs, List.flatMap_map,
      ← List.append_assoc, List.append_assoc _ [c], List.singleton_append,
      Text.stripEnd_append_cons hc]
    simp [later]
  · obtain ⟨blanks, hblanks⟩ := Text.isPrefix_stripEnd later
    cases hrest : Text.stripEnd later with
    | nil => rfl
    | cons c' rest =>
      rw [hrest] at hblanks
      cases after with
      | nil => exact absurd hblanks (List.cons_ne_nil _ _)
      | cons next after => exact (List.cons.inj hblanks).1

/-! ### The columns of a week -/

private theorem length_cells (month : Int) (ds : List Date) :
    (ds.flatMap (cell month marked today · ++ [' '])).length =
      4 * ds.length + ds.countP fun e ↦ e.month = month ∧ IsWide today e := by
  induction ds with
  | nil => rfl
  | cons e ds ih =>
    rw [List.flatMap_cons, List.length_append, ih, List.length_append, length_cell,
      List.countP_cons]
    simp only [List.length_cons, List.length_nil, decide_eq_true_eq]
    split <;> omega

private theorem countP_wide {before : List Date}
    (hbefore : before.map Date.number = numbersFrom (d.number - column d) (column d)) :
    (before.countP fun e ↦ e.month = d.month ∧ IsWide today e) =
      if IsCrowded today d ∧ today ≠ some d then 1 else 0 := by
  have hinj : Function.Injective Date.number := fun _ _ h ↦ Date.ext_number h
  have hnodup : before.Nodup := by
    apply List.Nodup.of_map Date.number
    rw [hbefore, numbersFrom]
    exact List.nodup_range.map fun i j h ↦ by simpa using h
  cases today with
  | none => simp [IsWide, IsCrowded]
  | some t =>
    have hmem : t ∈ before ↔ d.number - column d ≤ t.number ∧ t.number < d.number := by
      rw [← List.mem_map_of_injective hinj, hbefore, mem_numbersFrom]
      omega
    have hne : some t ≠ some d ↔ t.number ≠ d.number :=
      ⟨fun h hn ↦ h (congrArg some (Date.ext_number hn)), fun h ht ↦ h (by cases ht; rfl)⟩
    have hcrowded : IsCrowded (some t) d ∧ some t ≠ some d ↔
        (t.month = d.month ∧ 10 ≤ t.day) ∧ t ∈ before := by
      simp only [IsCrowded, Option.mem_some_iff, exists_eq_left', hne, hmem, Date.le_iff]
      omega
    by_cases hwide : t.month = d.month ∧ 10 ≤ t.day
    · have hequal : ∀ e ∈ before,
          decide (e.month = d.month ∧ IsWide (some t) e) = true ↔ (e == t) = true := by
        intro e _
        rw [decide_eq_true_eq, beq_iff_eq, IsWide, Option.some.injEq]
        constructor
        · exact fun h ↦ h.2.1.symm
        · rintro rfl
          exact ⟨hwide.1, rfl, hwide.2⟩
      rw [List.countP_congr hequal]
      exact hnodup.count.trans (if_congr (by rw [hcrowded, and_iff_right hwide]) rfl rfl)
    · rw [if_neg fun h ↦ hwide (hcrowded.mp h).1, List.countP_eq_zero]
      rintro e - h
      rw [decide_eq_true_eq, IsWide, Option.some.injEq] at h
      obtain ⟨hmonth, rfl, hday⟩ := h
      exact hwide ⟨hmonth, hday⟩

/-- Before the cell of a date stand four columns for each earlier day of its week, and one more if a
two-digit today is among those of the month. -/
theorem length_cellsBefore {before : List Date}
    (hbefore : before.map Date.number = numbersFrom (d.number - column d) (column d)) :
    (before.flatMap (cell d.month marked today · ++ [' '])).length =
      4 * column d + if IsCrowded today d ∧ today ≠ some d then 1 else 0 := by
  have hlength : before.length = column d := by
    rw [← List.length_map (f := Date.number), hbefore, length_numbersFrom]
  rw [length_cells, hlength, countP_wide today hbefore]

/-- The cell of a date in the line of its week. -/
theorem standsAt_weekLine {before : List Date} (after : List Date)
    (hbefore : before.map Date.number = numbersFrom (d.number - column d) (column d)) :
    StandsAt (weekLine d.month marked today (before ++ d :: after)) (cell d.month marked today d)
      (4 * column d + if IsCrowded today d ∧ today ≠ some d then 1 else 0)
      (4 * column d + 2 + if IsCrowded today d then 1 else 0) := by
  obtain ⟨rest, hline, hrest⟩ := weekLine_append marked today before after d
  have hlength := length_cellsBefore marked today hbefore
  rw [hline, ← hlength]
  apply standsAt_append _ hrest
  · rw [hlength, length_cell]
    have hself : IsWide today d → IsCrowded today d := by
      rintro ⟨rfl, hday⟩
      have hcolumn := column_eq d
      exact ⟨d, rfl, rfl, hday, by omega, by rw [Date.le_iff]⟩
    have hother : IsCrowded today d → today = some d → IsWide today d := by
      rintro ⟨t, ht, -, hday, -, -⟩ htoday
      obtain rfl : t = d := Option.some.inj (ht.symm.trans htoday)
      exact ⟨htoday, hday⟩
    grind [IsWide]
  · obtain rfl | ⟨start, e, rfl⟩ := List.eq_nil_or_concat before
    · exact Or.inl rfl
    · right
      rw [List.concat_eq_append, List.flatMap_append, List.flatMap_singleton, ← List.append_assoc]
      exact List.suffix_append _ _

end

/-! ### The lines of a month -/

private theorem not_mem_cell (month : Int) (marked : Int → Bool) (today : Option Date) (d : Date) :
    '\n' ∉ cell month marked today d := by
  have hday := Text.not_mem_integer (c := '\n') (by decide) (by decide) d.day
  have htext : '\n' ∉ cellText marked today d := by
    rw [cellText]
    split
    · simp [hday]
    · split
      · simp [hday]
      · exact hday
  rw [cell]
  split
  · simp [Text.padLeft, Text.spaces, List.mem_replicate, htext]
  · simp [Text.spaces, List.mem_replicate]

/-- The line of a week is one line. -/
theorem not_mem_weekLine (month : Int) (marked : Int → Bool) (today : Option Date)
    (week : List Date) : '\n' ∉ weekLine month marked today week := by
  intro hbreak
  have hmem := (Text.isPrefix_stripEnd _).subset hbreak
  refine Text.forall_mem_intercalate (p := (· ≠ '\n')) (by simp) ?_ _ hmem rfl
  intro l hl c hc hce
  obtain ⟨d, -, rfl⟩ := List.mem_map.mp hl
  exact not_mem_cell month marked today d (hce ▸ hc)

/-- The title of a month is one line. -/
theorem not_mem_titleLine {name : String} (hname : '\n' ∉ name.toList) (year : Int) :
    '\n' ∉ titleLine year name := by
  intro hbreak
  have hyear := Text.not_mem_integer (c := '\n') (by decide) (by decide) year
  have hmem := (Text.isPrefix_stripEnd _).subset hbreak
  simp [Text.center, Text.spaces, List.mem_replicate, hname, hyear] at hmem

/-- The name of a weekday stands in the header at the column of its dates. -/
theorem standsAt_header (d : Date) :
    StandsAt header (d.weekdayName.toList.take 3) (4 * column d) (4 * column d + 2) := by
  have hall : ∀ w ∈ List.range 7, StandsAt header
      ((weekdayNames.getD w "").capitalize.toList.take 3) (4 * ((w + 1) % 7))
      (4 * ((w + 1) % 7) + 2) := by
    decide
  have hweekday := d.weekday_eq
  have hcolumn : column d = (d.weekday.toNat + 1) % 7 := by
    rw [column]
    omega
  rw [hcolumn]
  exact hall d.weekday.toNat (by rw [List.mem_range]; omega)

/-- Each of the twelve months has a name, which is one line. -/
theorem exists_monthName {month : Int} (hm : 1 ≤ month ∧ month ≤ 12) :
    ∃ name, monthName month = .ok name ∧ '\n' ∉ name.toList := by
  rcases Date.month_cases hm with
      rfl | rfl | rfl | rfl | rfl | rfl | rfl | rfl | rfl | rfl | rfl | rfl <;>
    exact ⟨_, rfl, by decide⟩

/-- Whether a row holds the cell of a date: as many columns from the left as the days of its week
before it take, and under the name of its weekday exactly if no two-digit today crowds it. -/
structure HoldsCell (row : List Char) (marked : Int → Bool) (today : Option Date) (d : Date) :
    Prop where
  shows_day : Text.integer d.day <:+: cell d.month marked today d
  place : StandsAt row (cell d.month marked today d)
    (4 * column d + if IsCrowded today d ∧ today ≠ some d then 1 else 0)
    (4 * column d + 2 + if IsCrowded today d then 1 else 0)
  aligned_iff : StandsAt row (cell d.month marked today d) (4 * column d) (4 * column d + 2) ↔
    ¬IsCrowded today d

private theorem holdsCell_weekLine (marked : Int → Bool) (today : Option Date) {d : Date}
    {before : List Date} (after : List Date)
    (hbefore : before.map Date.number = numbersFrom (d.number - column d) (column d)) :
    HoldsCell (weekLine d.month marked today (before ++ d :: after)) marked today d := by
  have hplace := standsAt_weekLine marked today after hbefore
  refine ⟨integer_infix_cell marked today d, hplace, ?_, ?_⟩
  · intro haligned hcrowded
    obtain ⟨s, c, hs, hc⟩ := exists_cell_concat marked today d
    rw [hs] at hplace haligned
    rw [if_pos hcrowded] at hplace
    have hspace := haligned.eq_space hplace
    rw [hspace] at hc
    exact absurd hc (by decide)
  · intro hfree
    rw [if_neg hfree, if_neg fun h ↦ hfree h.1] at hplace
    exact hplace

/-- The lines of a month are its title, the names of the weekdays and one row a week before the lines
of its events, and each date of the month has its cell in the row of its week. -/
theorem renderMonth_columns {year month : Int} (hy : 2 ≤ year ∧ year ≤ 9998)
    (hm : 1 ≤ month ∧ month ≤ 12) (events : List Event) (today : Option Date) (legend : Bool) :
    ∃ text title rows rest, renderMonth year month events today legend = .ok text ∧
      Text.splitAt '\n' text = title :: header :: rows ++ rest ∧
      rows.length = weekCount year month ∧
      ∀ d : Date, d.InMonth year month →
        StandsAt header (d.weekdayName.toList.take 3) (4 * column d) (4 * column d + 2) ∧
        ∃ row, rows[weekOfMonth d]? = some row ∧
          HoldsCell row (isMarked year month events) today d := by
  obtain ⟨ds, hds, hnumbers⟩ := coveringDates_ok hy hm
  obtain ⟨name, hname, hbreak⟩ := exists_monthName hm
  let rows := (weeks ds).map (weekLine month (isMarked year month events) today)
  let more := if legend then legendLines year month events else []
  have hlines : monthLines year month events today legend =
      .ok (titleLine year name :: header :: rows ++ more) := by
    rw [monthLines, hname, ok_bind, weekLines, hds]
    rfl
  have hbreaks : ∀ l ∈ titleLine year name :: header :: rows, '\n' ∉ l := by
    simp only [List.forall_mem_cons]
    refine ⟨not_mem_titleLine hbreak year, by decide, ?_⟩
    intro l hl
    obtain ⟨week, -, rfl⟩ := List.mem_map.mp hl
    exact not_mem_weekLine month _ today week
  refine ⟨_, titleLine year name, rows, _, ?_,
    Text.splitAt_intercalate_append (List.cons_ne_nil _ _) hbreaks more, ?_, ?_⟩
  · rw [renderMonth, hlines]
    rfl
  · have hcount := congrArg List.length (map_number_weeks hnumbers)
    rw [List.length_map, List.length_map, List.length_range] at hcount
    rw [List.length_map, hcount]
  · intro d hd
    obtain ⟨before, after, hweek, hbefore⟩ := exists_week (by omega) hm hnumbers hd
    refine ⟨standsAt_header d, weekLine month (isMarked year month events) today
      (before ++ d :: after), ?_, ?_⟩
    · rw [List.getElem?_map, hweek]
      rfl
    · rw [← hd.2]
      exact holdsCell_weekLine _ today after hbefore

/-- The day after the present one, a Friday, stands one column to the right of its own. -/
theorem renderMonth_columns_sixteenth : ∃ text title rows rest,
    renderMonth 2026 1 [] (Date.of 2026 1 15).toOption false = .ok text ∧
      Text.splitAt '\n' text = title :: header :: rows ++ rest ∧
      ∃ row, rows[2]? = some row ∧ StandsAt row " 16".toList 21 23 ∧
        ¬StandsAt row " 16".toList 20 22 := by
  let today : Option Date := some ⟨739631, by decide, by decide⟩
  let d : Date := ⟨739632, by decide, by decide⟩
  have htoday : (Date.of 2026 1 15).toOption = today := rfl
  have hyear : (2 : Int) ≤ 2026 ∧ (2026 : Int) ≤ 9998 := by decide
  have hmonth : (1 : Int) ≤ 1 ∧ (1 : Int) ≤ 12 := by decide
  obtain ⟨text, title, rows, rest, htext, hlines, -, hall⟩ :=
    renderMonth_columns hyear hmonth [] today false
  obtain ⟨-, row, hrow, hcell⟩ := hall d (by decide)
  have hcrowded : IsCrowded today d ∧ today ≠ some d := by decide
  have htext' : cell d.month (isMarked 2026 1 []) today d = " 16".toList := by decide
  have hcolumn : column d = 5 := by decide
  have hplace := hcell.place
  have haligned := hcell.aligned_iff
  rw [if_pos hcrowded, if_pos hcrowded.1, htext', hcolumn] at hplace
  rw [htext', hcolumn] at haligned
  exact ⟨text, title, rows, rest, htoday ▸ htext, hlines, row, hrow, hplace,
    fun h ↦ haligned.mp h hcrowded.1⟩

/-- A date after a two-digit today of its week does not stand under its weekday in any line. -/
theorem exists_cell_displaced : ∃ text, ∃ d : Date, d.InMonth 2026 1 ∧
    renderMonth 2026 1 [] (Date.of 2026 1 15).toOption false = .ok text ∧
    ∀ line ∈ Text.splitAt '\n' text, ¬StandsAt line
      (cell 1 (isMarked 2026 1 []) (Date.of 2026 1 15).toOption d) (4 * column d)
      (4 * column d + 2) := by
  refine ⟨_, ⟨739632, by decide, by decide⟩, by decide, rfl, ?_⟩
  decide

end RuleCalendar.Grid
