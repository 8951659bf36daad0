import RuleCalendar.Proofs.Text.Strip
import RuleCalendar.RuleLine

/-!
# Lines

No character at which a line ends is left in the lines of a text, nor in what is read from them.
Main statements: lines that are joined with line feeds come back as the lines of the text; the names
and the notes of rule lines hold no line ends.
-/

namespace RuleCalendar

namespace Text

/-- Whether no line ends in a text. -/
def Unbroken (s : List Char) : Prop := ∀ c ∈ s, isLineEnd c = false

instance (s : List Char) : Decidable (Unbroken s) :=
  decidable_of_iff (s.all (!isLineEnd ·) = true) (by simp [Unbroken])

/-- No line ends in a text made of two parts if none ends in either. -/
theorem unbroken_append {s t : List Char} : Unbroken (s ++ t) ↔ Unbroken s ∧ Unbroken t :=
  List.forall_mem_append

/-- No line ends in a text if none ends at its first character or in the rest. -/
theorem unbroken_cons {c : Char} {s : List Char} :
    Unbroken (c :: s) ↔ isLineEnd c = false ∧ Unbroken s :=
  List.forall_mem_cons

private theorem Unbroken.sublist {s t : List Char} (h : Unbroken t) (hs : s.Sublist t) : Unbroken s :=
  fun c hc ↦ h c (hs.mem hc)

/-- A character that ends no line goes on with the line after it. -/
theorem lines_cons {c : Char} (h : isLineEnd c = false) (rest : List Char) :
    lines (c :: rest) = match lines rest with
      | l :: ls => (c :: l) :: ls
      | [] => [[c]] := by
  have hreturn : c ≠ '\r' := by
    rintro rfl
    revert h
    decide
  rw [lines.eq_3 c rest fun _ hc _ ↦ hreturn hc, h]
  rfl

/-- No line ends within a line. -/
theorem unbroken_of_mem_lines {s l : List Char} (hl : l ∈ lines s) : Unbroken l := by
  intro c hc
  induction s using lines.induct generalizing l with
  | case1 => exact absurd hl List.not_mem_nil
  | case2 rest ih =>
    rw [lines] at hl
    obtain rfl | hl := List.mem_cons.mp hl
    · exact absurd hc List.not_mem_nil
    · exact ih hl hc
  | case3 d rest hd hend ih =>
    rw [lines.eq_3 d rest hd, if_pos hend] at hl
    obtain rfl | hl := List.mem_cons.mp hl
    · exact absurd hc List.not_mem_nil
    · exact ih hl hc
  | case4 d rest hd hend m ms hrest ih =>
    rw [lines.eq_3 d rest hd, if_neg hend, hrest] at hl
    rw [hrest] at ih
    obtain rfl | hl := List.mem_cons.mp hl
    · obtain rfl | hc := List.mem_cons.mp hc
      · simpa using hend
      · exact ih List.mem_cons_self hc
    · exact ih (List.mem_cons_of_mem m hl) hc
  | case5 d rest hd hend hrest ih =>
    rw [lines.eq_3 d rest hd, if_neg hend, hrest] at hl
    rw [List.mem_singleton.mp hl] at hc
    rw [List.mem_singleton.mp hc]
    simpa using hend

/-- A character that ends a line, other than a carriage return with a line feed after it, makes a
line of its own at the start of a text. -/
theorem lines_cons_end {c : Char} (h : isLineEnd c = true) {rest : List Char}
    (hpair : ¬(c = '\r' ∧ rest.head? = some '\n')) : lines (c :: rest) = [] :: lines rest := by
  have hsingle : ∀ rest', c = '\r' → rest = '\n' :: rest' → False := by
    rintro rest' rfl rfl
    exact hpair ⟨rfl, rfl⟩
  rw [lines.eq_3 c rest hsingle, if_pos h]

variable {s : List Char}

/-- A text without line ends is the beginning of the line after it. -/
theorem lines_append (hs : Unbroken s) {t l : List Char} {ls : List (List Char)}
    (ht : lines t = l :: ls) : lines (s ++ t) = (s ++ l) :: ls := by
  induction s with
  | nil => exact ht
  | cons c s ih =>
    obtain ⟨hc, hs⟩ := unbroken_cons.mp hs
    rw [List.cons_append, lines_cons hc, ih hs]
    rfl

/-- A line ends at the first line feed. -/
theorem lines_append_break (hs : Unbroken s) (rest : List Char) :
    lines (s ++ '\n' :: rest) = s :: lines rest := by
  have hbreak : lines ('\n' :: rest) = [] :: lines rest :=
    lines_cons_end (by decide) fun h ↦ absurd h.1 (by decide)
  rw [lines_append hs hbreak, List.append_nil]

/-- A text without line ends is one line. -/
theorem lines_of_unbroken (hs : Unbroken s) (hne : s ≠ []) :
    lines s = [s] := by
  induction s with
  | nil => exact absurd rfl hne
  | cons c s ih =>
    obtain ⟨hc, hs⟩ := unbroken_cons.mp hs
    rw [lines_cons hc]
    cases s with
    | nil => rfl
    | cons d s => rw [ih hs (List.cons_ne_nil d s)]

/-- Lines that are joined with line feeds come back. -/
theorem lines_intercalate {ls : List (List Char)}
    (hls : ∀ l ∈ ls, l ≠ [] ∧ Unbroken l) :
    lines (['\n'].intercalate ls) = ls := by
  induction ls with
  | nil => rfl
  | cons l ls ih =>
    obtain ⟨hne, hl⟩ := hls l List.mem_cons_self
    cases ls with
    | nil => rw [List.intercalate_singleton, lines_of_unbroken hl hne]
    | cons m ls =>
      rw [List.intercalate_cons_cons, List.append_assoc, List.singleton_append,
        lines_append_break hl, ih fun k hk ↦ hls k (List.mem_cons_of_mem l hk)]

/-! ### Joined texts -/

/-- What holds of the characters of all parts and of the mark between them holds of the characters
of the joined text. -/
theorem forall_mem_intercalate {p : Char → Prop} {mark : List Char} {ls : List (List Char)}
    (hmark : ∀ c ∈ mark, p c) (hls : ∀ l ∈ ls, ∀ c ∈ l, p c) :
    ∀ c ∈ mark.intercalate ls, p c := by
  induction ls with
  | nil => simp
  | cons l ls ih =>
    have hl := hls l List.mem_cons_self
    have hrest := ih fun k hk ↦ hls k (List.mem_cons_of_mem l hk)
    cases ls with
    | nil => rwa [List.intercalate_singleton]
    | cons m ls =>
      rw [List.intercalate_cons_cons]
      simp only [List.forall_mem_append]
      exact ⟨⟨hl, hmark⟩, hrest⟩

/-- Whether a text ends with a character that is no line feed. -/
def EndsWithoutBreak (s : List Char) : Prop := ∃ t c, c ≠ '\n' ∧ s = t ++ [c]

/-- Texts that are joined end like the last of them. -/
theorem endsWithoutBreak_intercalate {mark : List Char} {ls : List (List Char)} (hne : ls ≠ [])
    (hls : ∀ l ∈ ls, EndsWithoutBreak l) : EndsWithoutBreak (mark.intercalate ls) := by
  induction ls with
  | nil => exact absurd rfl hne
  | cons l ls ih =>
    cases ls with
    | nil =>
      rw [List.intercalate_singleton]
      exact hls l List.mem_cons_self
    | cons m ls =>
      obtain ⟨t, c, hc, ht⟩ :=
        ih (List.cons_ne_nil m ls) fun k hk ↦ hls k (List.mem_cons_of_mem l hk)
      refine ⟨l ++ mark ++ t, c, hc, ?_⟩
      rw [List.intercalate_cons_cons, ht, List.append_assoc (l ++ mark)]

/-- A single line feed after such a text is all that is taken off its end. -/
theorem trimFinalBreaks_append_break (h : EndsWithoutBreak s) :
    trimFinalBreaks (s ++ ['\n']) = s := by
  obtain ⟨t, c, hc, rfl⟩ := h
  simp [trimFinalBreaks, hc]

end Text

namespace RuleLine

/-- What stands before the separator and what stands after it is part of the line. -/
theorem splitAtSeparator_sublist (s : List Char) :
    (splitAtSeparator s).1.Sublist s ∧ (splitAtSeparator s).2.Sublist s := by
  induction s with
  | nil => exact ⟨.slnil, .slnil⟩
  | cons c s ih =>
    rw [splitAtSeparator]
    split
    · exact ⟨List.nil_sublist _, List.drop_sublist _ _⟩
    · exact ⟨ih.1.cons_cons c, ih.2.cons c⟩

/-- The name and the note of a line are taken from it. -/
theorem parse_sublist (s : List Char) :
    (parse s).name.toList.Sublist s ∧ (parse s).notes.toList.Sublist s := by
  obtain ⟨hname, hrule⟩ := splitAtSeparator_sublist s
  simp only [parse, String.toList_ofList]
  exact ⟨(Text.strip_sublist _).trans hname, (Text.strip_sublist _).trans hrule⟩

/-- No line ends in the names and the notes of rule lines. -/
theorem unbroken_of_mem_parseAll {text : List Char} {line : RuleLine}
    (hline : line ∈ parseAll text) :
    Text.Unbroken line.name.toList ∧ Text.Unbroken line.notes.toList := by
  obtain ⟨l, hl, rfl⟩ := List.mem_map.mp hline
  obtain ⟨hname, hnotes⟩ := parse_sublist (Text.strip l)
  have hl' := Text.unbroken_of_mem_lines (List.mem_of_mem_filter hl)
  have hstrip := hl'.sublist (Text.strip_sublist l)
  exact ⟨hstrip.sublist hname, hstrip.sublist hnotes⟩

end RuleLine

end RuleCalendar
