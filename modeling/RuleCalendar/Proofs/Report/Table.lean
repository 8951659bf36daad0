import Mathlib.Data.List.Forall2
import Mathlib.Order.Bounds.Defs
import RuleCalendar.Proofs.Text.Layout
import RuleCalendar.Proofs.Text.Strip
import RuleCalendar.Report.Table

/-!
# Aligned tables

Rows lose the blanks at their ends, and nothing else of a table is lost. Main statement: where cells
end in no other blanks than spaces, each row that is padded to the length of the line of headers has
its bars where that line has them, and between them its cells, each padded to the longest of its
column.
-/

namespace RuleCalendar.Table

/-- Where a column begins: behind the columns before it, each with a bar after it. -/
def start : List Nat → Nat → Nat
  | width :: widths, i + 1 => width + bar.length + start widths i
  | _, _ => 0

/-- A line shows texts in columns of some widths, one text in each, with bars between them. -/
structure Shows (line : List Char) (widths : List Nat) (texts : List (List Char)) : Prop where
  /-- Each text stands in its column, padded to the width. -/
  text_at {i width : Nat} {text : List Char} : widths[i]? = some width → texts[i]? = some text →
    (line.drop (start widths i)).take width = Text.padRight width text
  /-- A bar stands after each column but the last. -/
  bar_at {i width : Nat} : widths[i]? = some width → i + 1 < widths.length →
    (line.drop (start widths i + width)).take bar.length = bar
  /-- The line ends with the last column. -/
  length_eq {i width : Nat} : widths[i]? = some width → i + 1 = widths.length →
    line.length = start widths i + width

/-- Lines that show columns of the same widths are equally long. -/
theorem Shows.length_eq_length {line line' : List Char} {widths : List Nat}
    {texts texts' : List (List Char)} (h : Shows line widths texts)
    (h' : Shows line' widths texts') (hne : widths ≠ []) : line.length = line'.length := by
  have hpos := List.length_pos_iff.mpr hne
  have hlast : widths[widths.length - 1]? = some (widths.getLast hne) := by
    rw [← List.getLast?_eq_getElem?, List.getLast?_eq_some_getLast hne]
  rw [h.length_eq hlast (by omega), h'.length_eq hlast (by omega)]

section

variable {α : Type} {as : List α} {width : α → Nat} {text : α → List Char}

private theorem length_flatMap_take (hfits : ∀ a ∈ as, (text a).length ≤ width a) (i : Nat) :
    (((as.take i).map fun a ↦ Text.padRight (width a) (text a)).flatMap (· ++ bar)).length =
      start (as.map width) i := by
  induction as generalizing i with
  | nil => simp [start]
  | cons a as ih =>
    rw [List.forall_mem_cons] at hfits
    cases i with
    | zero => rfl
    | succ i =>
      have ha := hfits.1
      rw [List.take_succ_cons, List.map_cons, List.flatMap_cons, List.length_append, ih hfits.2,
        List.length_append, Text.length_padRight, List.map_cons, start]
      omega

/-- Joined with bars, a text in its column has the columns before it on its left, and on its right a
bar unless it is the last one. -/
theorem exists_intercalate_eq (hfits : ∀ a ∈ as, (text a).length ≤ width a) {i : Nat} {a : α}
    (hi : as[i]? = some a) : ∃ left right,
      bar.intercalate (as.map fun a ↦ Text.padRight (width a) (text a)) =
        left ++ Text.padRight (width a) (text a) ++ right ∧
      left.length = start (as.map width) i ∧ (i + 1 < as.length → bar <+: right) ∧
      (i + 1 = as.length → right = []) := by
  obtain ⟨hlt, ha⟩ := List.getElem?_eq_some_iff.mp hi
  have hsplit : as = as.take i ++ a :: as.drop (i + 1) := by
    rw [← ha, List.getElem_cons_drop, List.take_append_drop]
  refine ⟨_, ((as.drop (i + 1)).map fun a ↦ Text.padRight (width a) (text a)).flatMap (bar ++ ·),
    ?_, length_flatMap_take hfits i, ?_, ?_⟩
  · conv_lhs => rw [hsplit, List.map_append, List.map_cons, Text.intercalate_append_cons]
  · intro hnext
    obtain ⟨next, rest, hrest⟩ := List.exists_cons_of_length_pos (l := as.drop (i + 1)) (by
      rw [List.length_drop]
      omega)
    rw [hrest, List.map_cons, List.flatMap_cons, List.append_assoc]
    exact List.prefix_append _ _
  · intro hlast
    rw [hlast, List.drop_length]
    rfl

/-- Texts that fit their columns are shown in them when they are padded and joined with bars. -/
theorem shows_intercalate (hfits : ∀ a ∈ as, (text a).length ≤ width a) :
    Shows (bar.intercalate (as.map fun a ↦ Text.padRight (width a) (text a)))
      (as.map width) (as.map text) := by
  have hcolumn {i w : Nat} (hw : (as.map width)[i]? = some w) : ∃ a, as[i]? = some a ∧
      w = width a ∧ (Text.padRight (width a) (text a)).length = width a := by
    rw [List.getElem?_map, Option.map_eq_some_iff] at hw
    obtain ⟨a, ha, rfl⟩ := hw
    have hfit := hfits a (List.mem_of_getElem? ha)
    refine ⟨a, ha, rfl, ?_⟩
    rw [Text.length_padRight]
    omega
  constructor
  case text_at =>
    intro i w t hw ht
    obtain ⟨a, ha, rfl, hlength⟩ := hcolumn hw
    rw [List.getElem?_map, ha] at ht
    cases ht
    obtain ⟨left, right, hline, hleft, -, -⟩ := exists_intercalate_eq hfits ha
    rw [hline, ← hleft, List.append_assoc, List.drop_left, List.take_left' hlength]
  case bar_at =>
    intro i w hw hnext
    obtain ⟨a, ha, rfl, hlength⟩ := hcolumn hw
    rw [List.length_map] at hnext
    obtain ⟨left, right, hline, hleft, hbar, -⟩ := exists_intercalate_eq hfits ha
    obtain ⟨rest, hright⟩ := hbar hnext
    have hbehind : (left ++ Text.padRight (width a) (text a)).length =
        start (as.map width) i + width a := by
      rw [List.length_append, hleft, hlength]
    rw [hline, ← hright, List.drop_left' hbehind, List.take_left]
  case length_eq =>
    intro i w hw hlast
    obtain ⟨a, ha, rfl, hlength⟩ := hcolumn hw
    rw [List.length_map] at hlast
    obtain ⟨left, right, hline, hleft, -, hend⟩ := exists_intercalate_eq hfits ha
    rw [hline, hend hlast, List.append_nil, List.length_append, hleft, hlength]

end

/-! ### Tables -/

private theorem isGreatest_foldl_max (n : Nat) (ns : List Nat) :
    IsGreatest {m | m = n ∨ m ∈ ns} (ns.foldl max n) := by
  induction ns generalizing n with
  | nil =>
    constructor
    · exact .inl rfl
    · rintro m (rfl | hm)
      · exact Nat.le_refl m
      · cases hm
  | cons k ns ih =>
    obtain ⟨hmem, hle⟩ := ih (max n k)
    rw [List.foldl_cons]
    constructor
    · obtain hmax | hmem := hmem
      · rw [hmax]
        by_cases hkn : k ≤ n
        · exact .inl (Nat.max_eq_left hkn)
        · exact .inr (List.mem_cons.mpr (.inl (Nat.max_eq_right (by omega))))
      · exact .inr (List.mem_cons_of_mem k hmem)
    · have hfirst : max n k ≤ ns.foldl max (max n k) := hle (.inl rfl)
      rintro m (rfl | hm)
      · omega
      · obtain rfl | hm := List.mem_cons.mp hm
        · omega
        · exact hle (.inr hm)

variable {headers : List String} {rows : List (List (Scalar × Value))}

/-- A column is as wide as the longest of its header and its cells. -/
theorem isGreatest_width (header : String) (rows : List (List (Scalar × Value))) :
    IsGreatest {n | n = header.length ∨ ∃ row ∈ rows, n = (cell row header).length}
      (width header rows) := by
  have hgreatest := isGreatest_foldl_max header.length
    (rows.map fun row ↦ (cell row header).length)
  simp only [List.mem_map] at hgreatest
  simpa only [width, eq_comm] using hgreatest

private theorem headLine_columns (headers : List String) (rows : List (List (Scalar × Value))) :
    headLine (columns headers rows) =
      bar.intercalate (headers.map fun h ↦ Text.padRight (width h rows) h.toList) := by
  rw [headLine, columns, List.map_map]
  rfl

private theorem fullRowLine_columns (headers : List String) (rows : List (List (Scalar × Value)))
    (row : List (Scalar × Value)) : fullRowLine (columns headers rows) row =
      bar.intercalate (headers.map fun h ↦ Text.padRight (width h rows) (cell row h)) := by
  rw [fullRowLine, columns, List.map_map]
  rfl

private theorem shows_headLine (headers : List String) (rows : List (List (Scalar × Value))) :
    Shows (headLine (columns headers rows)) (headers.map (width · rows))
      (headers.map String.toList) := by
  rw [headLine_columns]
  apply shows_intercalate
  intro header _
  exact (isGreatest_width header rows).2 (.inl String.length_toList)

private theorem shows_fullRowLine {row : List (Scalar × Value)} (hrow : row ∈ rows) :
    Shows (fullRowLine (columns headers rows) row) (headers.map (width · rows))
      (headers.map (cell row)) := by
  rw [fullRowLine_columns]
  apply shows_intercalate
  intro header _
  exact (isGreatest_width header rows).2 (.inr ⟨row, hrow, rfl⟩)

private theorem length_fullRowLine {row : List (Scalar × Value)} (hrow : row ∈ rows) :
    (fullRowLine (columns headers rows) row).length = (headLine (columns headers rows)).length := by
  cases headers with
  | nil => rfl
  | cons header headers =>
    exact (shows_fullRowLine hrow).length_eq_length (shows_headLine _ rows) (List.cons_ne_nil _ _)

private theorem onlySpacesAtEnd_fullRowLine {row : List (Scalar × Value)}
    (hcells : ∀ header ∈ headers, Text.OnlySpacesAtEnd (cell row header)) :
    Text.OnlySpacesAtEnd (fullRowLine (columns headers rows) row) := by
  rw [fullRowLine_columns]
  apply Text.OnlySpacesAtEnd.intercalate
  · decide
  · intro part hpart
    obtain ⟨header, hheader, rfl⟩ := List.mem_map.mp hpart
    exact (hcells header hheader).append (Text.onlySpacesAtEnd_spaces _)

/-- A table has a line of its headers, as many dashes below, and a line for each row, which shows its
cells under the headers when it is padded. -/
theorem lines_aligned (hspaces : ∀ row ∈ rows, ∀ header ∈ headers,
      Text.OnlySpacesAtEnd (cell row header)) :
    (∀ header ∈ headers,
      IsGreatest {n | n = header.length ∨ ∃ row ∈ rows, n = (cell row header).length}
        (width header rows)) ∧
    ∃ head body, lines headers rows = head :: List.replicate head.length '-' :: body ∧
      Shows head (headers.map (width · rows)) (headers.map String.toList) ∧
      List.Forall₂ (fun row line ↦ line.length ≤ head.length ∧
        Shows (Text.padRight head.length line) (headers.map (width · rows))
          (headers.map (cell row))) rows body := by
  refine ⟨fun header _ ↦ isGreatest_width header rows, _, _, rfl, shows_headLine headers rows, ?_⟩
  rw [List.forall₂_map_right_iff, List.forall₂_same]
  intro row hrow
  have hends : Text.OnlySpacesAtEnd (fullRowLine (columns headers rows) row) :=
    onlySpacesAtEnd_fullRowLine (hspaces row hrow)
  have hfull := Text.padRight_stripEnd_iff.mpr hends
  rw [length_fullRowLine hrow] at hfull
  constructor
  · rw [← length_fullRowLine hrow]
    exact (Text.isPrefix_stripEnd _).length_le
  · rw [rowLine, hfull]
    exact shows_fullRowLine hrow

/-- The first row has a bar inside one cell and spaces at the end of the other, the second row has no
note. -/
theorem lines_aligned_missing_key :
    let headers := ["name", "note"]
    let full : List (Scalar × Value) :=
      [(.text "name", .text "a | b"), (.text "note", .text "x  ")]
    let sparse : List (Scalar × Value) := [(.text "name", .text "")]
    (∀ row ∈ [full, sparse], ∀ header ∈ headers, Text.OnlySpacesAtEnd (cell row header)) ∧
    lines headers [full, sparse] = ["name  | note".toList, "------------".toList,
      "a | b | x".toList, "      |".toList] ∧
    Shows (Text.padRight 12 "a | b | x".toList) [5, 4] ["a | b".toList, "x  ".toList] ∧
    Shows (Text.padRight 12 "      |".toList) [5, 4] [[], []] := by
  intro headers full sparse
  have hspaces : ∀ row ∈ [full, sparse], ∀ header ∈ headers,
      Text.OnlySpacesAtEnd (cell row header) := by
    decide +kernel
  have hlines : lines headers [full, sparse] = ["name  | note".toList, "------------".toList,
      "a | b | x".toList, "      |".toList] := by
    decide +kernel
  obtain ⟨-, head, body, htable, -, hrows⟩ := lines_aligned hspaces
  rw [hlines] at htable
  cases htable
  have hwidths : headers.map (width · [full, sparse]) = [5, 4] := by decide +kernel
  have hfull : headers.map (cell full) = ["a | b".toList, "x  ".toList] := by decide +kernel
  have hsparse : headers.map (cell sparse) = [[], []] := by decide +kernel
  simp only [List.forall₂_cons, hwidths, hfull, hsparse] at hrows
  exact ⟨hspaces, hlines, hrows.1.2, hrows.2.1.2⟩

end RuleCalendar.Table
