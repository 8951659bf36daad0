import Mathlib.Logic.Relation
import RuleCalendar.Proofs.Text.Lines
import RuleCalendar.Proofs.Text.NormalForm

/-!
# The lines of a rules text

Only lines that are not blank are read, and a text is cut into lines at every boundary. A carriage
return with a line feed after it ends one line, not two, but two would differ by a blank line only.
Main statement: the rule lines of two texts with a boundary between them are those of the first and
then those of the second; blank lines and the choice of boundaries make no difference.
-/

namespace RuleCalendar

namespace Text

/-! ### Lines that are not blank -/

/-- The lines of a text that hold more than blanks. -/
def filledLines (s : List Char) : List (List Char) := (lines s).filter (!allBlank ·)

/-- A text is one line, or it is a line, the end of that line and another text. -/
@[elab_as_elim]
theorem lineInduction {motive : List Char → Prop} (line : ∀ s, Unbroken s → motive s)
    (append : ∀ s c rest, Unbroken s → isLineEnd c = true → motive rest → motive (s ++ c :: rest))
    (s : List Char) : motive s := by
  have hcut : ∀ t, Unbroken t → motive (t ++ s) := by
    induction s with
    | nil =>
      intro t ht
      rw [List.append_nil]
      exact line t ht
    | cons c s ih =>
      intro t ht
      cases hc : isLineEnd c with
      | true => exact append t c s ht hc (ih [] fun _ h ↦ absurd h List.not_mem_nil)
      | false =>
        have hmore := ih (t ++ [c]) (unbroken_append.mpr ⟨ht, by simpa [Unbroken] using hc⟩)
        rwa [List.append_assoc] at hmore
  exact hcut [] fun _ h ↦ absurd h List.not_mem_nil

/-- An end of a line at the start of a text makes a blank line, alone or with the next character. -/
theorem exists_lines_cons_end {c : Char} (h : isLineEnd c = true) (rest : List Char) :
    ∃ ls, lines (c :: rest) = [] :: ls ∧ ls.filter (!allBlank ·) = filledLines rest := by
  by_cases hpair : c = '\r' ∧ rest.head? = some '\n'
  · obtain ⟨rfl, hhead⟩ := hpair
    obtain ⟨rest, rfl⟩ := List.head?_eq_some_iff.mp hhead
    -- the line feed belongs to the return before it, and would make a blank line without it
    have hbreak : lines ('\n' :: rest) = [] :: lines rest :=
      lines_cons_end (by decide) fun h ↦ absurd h.1 (by decide)
    refine ⟨lines rest, lines.eq_2 rest, ?_⟩
    rw [filledLines, hbreak]
    rfl
  · exact ⟨lines rest, lines_cons_end h hpair, rfl⟩

variable {s : List Char}

private theorem filledLines_of_unbroken (hs : Unbroken s) :
    filledLines s = [s].filter (!allBlank ·) := by
  cases s with
  | nil => rfl
  | cons c s => rw [filledLines, lines_of_unbroken hs (List.cons_ne_nil c s)]

private theorem filledLines_line_append (hs : Unbroken s) {c : Char} (hc : isLineEnd c = true)
    (rest : List Char) : filledLines (s ++ c :: rest) = filledLines s ++ filledLines rest := by
  obtain ⟨ls, hls, hrest⟩ := exists_lines_cons_end hc rest
  rw [filledLines, lines_append hs hls, List.append_nil, ← List.singleton_append,
    List.filter_append, hrest, filledLines_of_unbroken hs]

/-- The lines of a text part at every character that ends a line. -/
theorem filledLines_append_end {c : Char} (hc : isLineEnd c = true) (s rest : List Char) :
    filledLines (s ++ c :: rest) = filledLines s ++ filledLines rest := by
  induction s using lineInduction with
  | line s hs => exact filledLines_line_append hs hc rest
  | append s d t hs hd ih =>
    rw [List.append_assoc, List.cons_append, filledLines_line_append hs hd, ih,
      filledLines_line_append hs hd, List.append_assoc]

/-- A text of blanks holds no line that is not blank. -/
theorem filledLines_of_allBlank (h : allBlank s = true) : filledLines s = [] := by
  induction s using lineInduction with
  | line s hs =>
    rw [filledLines_of_unbroken hs, List.filter_cons_of_neg (by simp [h]), List.filter_nil]
  | append s c rest hs hc ih =>
    rw [allBlank, List.all_append, List.all_cons, Bool.and_eq_true, Bool.and_eq_true] at h
    obtain ⟨hblank, -, hrest⟩ := h
    rw [filledLines_line_append hs hc, ih hrest, filledLines_of_unbroken hs,
      List.filter_cons_of_neg (by simp [allBlank, hblank]), List.filter_nil, List.append_nil]

/-! ### Boundaries -/

/-- The texts that end a line. -/
def boundaries : List (List Char) :=
  [['\n'], ['\r'], ['\r', '\n'], ['\x0b'], ['\x0c'], ['\x1c'], ['\x1d'], ['\x1e'], ['\u0085'],
    ['\u2028'], ['\u2029']]

/-- A boundary is a character that ends a line, or a carriage return and a line feed. -/
theorem mem_boundaries {b : List Char} :
    b ∈ boundaries ↔ b = ['\r', '\n'] ∨ ∃ c, b = [c] ∧ isLineEnd c = true := by
  constructor
  · intro h
    have hall : ∀ b ∈ boundaries, b = ['\r', '\n'] ∨ b.length = 1 ∧ b.all isLineEnd = true := by
      decide
    refine (hall b h).imp_right fun hsingle ↦ ?_
    obtain ⟨c, rfl⟩ := List.length_eq_one_iff.mp hsingle.1
    exact ⟨c, rfl, by simpa using hsingle.2⟩
  · rintro (rfl | ⟨c, rfl, hc⟩)
    · decide
    · have hcode : c.toNat ∈ [10, 11, 12, 13, 28, 29, 30, 0x85, 0x2028, 0x2029] := by
        simp only [isLineEnd, Bool.or_eq_true, Bool.and_eq_true, decide_eq_true_eq,
          beq_iff_eq] at hc
        simp only [List.mem_cons, List.not_mem_nil, or_false]
        omega
      have hall : ∀ n ∈ [10, 11, 12, 13, 28, 29, 30, 0x85, 0x2028, 0x2029],
          [Char.ofNat n] ∈ boundaries := by
        decide
      have hc := hall c.toNat hcode
      rwa [Char.ofNat_toNat] at hc

/-- The lines of a text part at every boundary. -/
theorem filledLines_append {b : List Char} (hb : b ∈ boundaries) (s t : List Char) :
    filledLines (s ++ b ++ t) = filledLines s ++ filledLines t := by
  rw [List.append_assoc]
  obtain rfl | ⟨c, rfl, hc⟩ := mem_boundaries.mp hb
  · have hfeed : isLineEnd '\n' = true := by decide
    have hempty : filledLines [] = [] := rfl
    have hrest := filledLines_append_end hfeed [] t
    rw [hempty, List.nil_append, List.nil_append] at hrest
    exact (filledLines_append_end (by decide) s ('\n' :: t)).trans (congrArg _ hrest)
  · exact filledLines_append_end hc s t

private theorem fold_of_mem_boundaries {b : List Char} (hb : b ∈ boundaries) : fold b = b := by
  have hall : ∀ b ∈ boundaries, fold b = b := by decide
  exact hall b hb

private theorem allBlank_fold (h : allBlank s = true) : allBlank (fold s) = true := by
  rw [allBlank, List.all_eq_true] at h ⊢
  intro c hc
  obtain ⟨d, hd, rfl⟩ := List.mem_map.mp hc
  exact isBlank_foldChar (h d hd)

end Text

namespace RuleLine

open Text (boundaries allBlank)

/-- The rule lines of a text are read from its lines that are not blank. -/
theorem parseAll_eq (text : List Char) : parseAll text =
    (Text.filledLines (Text.fold text)).map fun l ↦ parse (Text.strip l) := rfl

private theorem parseAll_append_boundary {b : List Char} (hb : b ∈ boundaries) (s t : List Char) :
    parseAll (s ++ b ++ t) = parseAll s ++ parseAll t := by
  rw [parseAll_eq, Text.fold_append, Text.fold_append, Text.fold_of_mem_boundaries hb,
    Text.filledLines_append hb, List.map_append, ← parseAll_eq, ← parseAll_eq]

private theorem parseAll_of_allBlank {s : List Char} (h : allBlank s = true) : parseAll s = [] := by
  rw [parseAll_eq, Text.filledLines_of_allBlank (Text.allBlank_fold h), List.map_nil]

/-- One change of the line boundaries or of the blank lines of a text. -/
inductive Relined : List Char → List Char → Prop
  /-- A boundary takes the place of another. -/
  | boundary {b b' : List Char} (s t : List Char) : b ∈ boundaries → b' ∈ boundaries →
      Relined (s ++ b ++ t) (s ++ b' ++ t)
  /-- A blank line comes in front of the text. -/
  | leading {b blank : List Char} (s : List Char) : b ∈ boundaries → allBlank blank = true →
      Relined s (blank ++ b ++ s)
  /-- A blank line comes after a boundary of the text. -/
  | between {b b' blank : List Char} (s t : List Char) : b ∈ boundaries → b' ∈ boundaries →
      allBlank blank = true → Relined (s ++ b ++ t) (s ++ b ++ blank ++ b' ++ t)
  /-- A blank line comes behind the text. -/
  | trailing {b blank : List Char} (s : List Char) : b ∈ boundaries → allBlank blank = true →
      Relined s (s ++ b ++ blank)

variable {s t : List Char}

private theorem Relined.parseAll_eq (h : Relined s t) : parseAll s = parseAll t := by
  cases h with
  | boundary s t hb hb' => rw [parseAll_append_boundary hb, parseAll_append_boundary hb']
  | leading s hb hblank =>
    rw [parseAll_append_boundary hb, parseAll_of_allBlank hblank, List.nil_append]
  | between s t hb hb' hblank =>
    rw [parseAll_append_boundary hb', parseAll_append_boundary hb, parseAll_append_boundary hb,
      parseAll_of_allBlank hblank, List.append_nil]
  | trailing s hb hblank =>
    rw [parseAll_append_boundary hb, parseAll_of_allBlank hblank, List.append_nil]

/-- The rule lines of texts with a boundary between them are those of the texts in a row. Texts that
come from one another by changes of boundaries and blank lines, there or back, have the same. -/
theorem parseAll_relined : (∀ s t, ∀ b ∈ boundaries,
      parseAll (s ++ b ++ t) = parseAll s ++ parseAll t) ∧
    ∀ s t, Relation.EqvGen Relined s t → parseAll s = parseAll t := by
  refine ⟨fun s t b hb ↦ parseAll_append_boundary hb s t, fun s t h ↦ ?_⟩
  induction h with
  | rel _ _ hstep => exact hstep.parseAll_eq
  | refl _ => rfl
  | symm _ _ _ ih => exact ih.symm
  | trans _ _ _ _ _ ih ih' => exact ih.trans ih'

/-- The line feed between the texts ends a line together with the return before it, and the one
after it ends a line of its own; neither that nor a line of blanks makes a difference. -/
theorem parseAll_relined_feeds :
    let rent := "Rent - 1st of every month".toList
    let close := '\n' :: "Close - last day".toList
    let s := rent ++ ['\r'] ++ ['\n'] ++ close
    let t := rent ++ ['\n'] ++ [' ', '\t'] ++ ['\n'] ++ close
    ['\n'] ∈ boundaries ∧ parseAll s = parseAll (rent ++ ['\r']) ++ parseAll close ∧
      Relation.EqvGen Relined s t ∧ parseAll s = parseAll t := by
  intro rent close s t
  have hpair : Relined s (rent ++ ['\n'] ++ close) := by
    have hreturn : s = rent ++ ['\r', '\n'] ++ close :=
      congrArg (· ++ close) (List.append_assoc rent ['\r'] ['\n'])
    rw [hreturn]
    exact .boundary rent close (by decide) (by decide)
  have hblank : Relined (rent ++ ['\n'] ++ close) t :=
    .between rent close (by decide) (by decide) rfl
  have hchain : Relation.EqvGen Relined s t := .trans _ _ _ (.rel _ _ hpair) (.rel _ _ hblank)
  obtain ⟨happend, hsame⟩ := parseAll_relined
  exact ⟨by decide, happend _ _ _ (by decide), hchain, hsame _ _ hchain⟩

end RuleLine

end RuleCalendar
