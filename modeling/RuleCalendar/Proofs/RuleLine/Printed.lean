import RuleCalendar.Proofs.RuleLine.Separator
import RuleCalendar.Proofs.Text.Ascii

/-!
# Printed rule lines

Main statement: names and rules that are kept as they are when a text is read, printed a line each
with a separator between the two, are read back exactly if the separator after each name is the
first one on its line. A rule may hold any number of separators.
-/

namespace RuleCalendar.RuleLine

variable {s name rule : List Char}

/-- Whether a text can be a part of a rule line: it is kept as it is when a rules text is read. -/
structure IsPart (s : List Char) : Prop where
  ne_nil : s ≠ []
  stripped : Text.strip s = s
  folded : Text.fold s = s
  unbroken : Text.Unbroken s

instance (s : List Char) : Decidable (IsPart s) :=
  decidable_of_iff (s ≠ [] ∧ Text.strip s = s ∧ Text.fold s = s ∧ Text.Unbroken s)
    ⟨fun ⟨hne, hstrip, hfold, hline⟩ ↦ ⟨hne, hstrip, hfold, hline⟩,
      fun h ↦ ⟨h.ne_nil, h.stripped, h.folded, h.unbroken⟩⟩

/-- ASCII words one space apart are kept as they are. -/
theorem IsPart.of_spaced (hascii : Text.IsAscii s) (h : Text.Spaced s) : IsPart s where
  ne_nil := by
    obtain ⟨c, rest, rfl, -⟩ := h.exists_cons
    exact List.cons_ne_nil c rest
  stripped := h.strip_eq
  folded := Text.fold_of_ascii hascii
  unbroken := h.unbroken

/-- Whether a text can be the name on a rule line: no separator stands in it, and none begins in it
when a separator comes after it. -/
structure IsName (name : List Char) : Prop extends IsPart name where
  no_separator : ¬separator <:+: name
  no_hyphen_at_end : ¬[' ', '-'] <:+ name

/-! ### Lines -/

/-- A name and a rule with a separator between them are kept as they are. -/
theorem IsPart.append_separator (hname : IsPart name) (hrule : IsPart rule) :
    IsPart (name ++ separator ++ rule) where
  ne_nil := by simp [hname.ne_nil]
  stripped := by
    have hstart := (Text.strip_eq_self_iff.mp hname.stripped).1
    have hend := (Text.strip_eq_self_iff.mp hrule.stripped).2
    rw [Text.strip_eq_self_iff, List.append_assoc, List.head?_append_of_ne_nil _ hname.ne_nil,
      ← List.append_assoc, List.getLast?_append_of_ne_nil _ hrule.ne_nil]
    exact ⟨hstart, hend⟩
  folded := by
    have hseparator : Text.fold separator = separator := by decide
    rw [Text.fold_append, Text.fold_append, hname.folded, hrule.folded, hseparator]
  unbroken := by
    rw [Text.unbroken_append, Text.unbroken_append]
    exact ⟨⟨hname.unbroken, by decide⟩, hrule.unbroken⟩

/-- Lines that are kept as they are and joined with line feeds are read one by one. -/
theorem parseAll_intercalate {ls : List (List Char)} (hls : ∀ l ∈ ls, IsPart l) :
    parseAll (['\n'].intercalate ls) = ls.map parse := by
  have hfold : Text.fold (['\n'].intercalate ls) = ['\n'].intercalate ls := by
    rw [Text.fold_eq_self_iff]
    apply Text.forall_mem_intercalate
    · rw [List.forall_mem_singleton]
      decide
    · exact fun l hl ↦ Text.fold_eq_self_iff.mp (hls l hl).folded
  have hfilled : Text.filledLines (['\n'].intercalate ls) = ls := by
    rw [Text.filledLines,
      Text.lines_intercalate fun l hl ↦ ⟨(hls l hl).ne_nil, (hls l hl).unbroken⟩,
      List.filter_eq_self]
    intro l hl
    have hblank : Text.allBlank l ≠ true := by
      rw [← Text.strip_eq_nil_iff.ne, (hls l hl).stripped]
      exact (hls l hl).ne_nil
    simpa using hblank
  rw [parseAll_eq, hfold, hfilled]
  apply List.map_congr_left
  intro l hl
  rw [(hls l hl).stripped]

/-- A printed line is read back exactly if its separator is the first one on it. -/
theorem parse_append_separator_iff (hname : IsPart name) (hrule : IsPart rule) :
    parse (name ++ separator ++ rule) = named name rule ↔ IsBeforeSeparator name := by
  constructor
  · intro h
    obtain ⟨hnone, -⟩ | ⟨b, a, hline, hb, -⟩ :=
      splitAtSeparator_cases (name ++ separator ++ rule)
    · exact absurd (List.infix_append name separator rule) hnone
    · -- the first separator is not after the printed one, and the whole name stands before it
      have hearly := hb.length_le hline.symm
      have hlate := (Text.strip_sublist b).length_le
      rw [hline, parse_append hb, named_inj] at h
      rw [h.1] at hlate
      rw [List.append_assoc, List.append_assoc] at hline
      rwa [(List.append_inj hline (Nat.le_antisymm hlate hearly)).1]
  · intro h
    rw [parse_append h, hname.stripped, hrule.stripped]

/-- A name and a rule text with a separator between them are the parts of the only line. -/
theorem parseAll_append (hname : IsName name) (hrule : IsPart rule) :
    parseAll (name ++ separator ++ rule) = [named name rule] := by
  have hfirst := isBeforeSeparator_iff.mpr ⟨hname.no_separator, hname.no_hyphen_at_end⟩
  have hparse := (parse_append_separator_iff hname.toIsPart hrule).mpr hfirst
  have hline := hname.toIsPart.append_separator hrule
  have hread := parseAll_intercalate (List.forall_mem_singleton.mpr hline)
  rwa [List.intercalate_singleton, List.map_singleton, hparse] at hread

/-- Printed names and rules are read back exactly if no name holds a separator or ends with a space
and a hyphen. -/
theorem parseAll_printed_iff (pairs : List (String × String))
    (h : ∀ p ∈ pairs, IsPart p.1.toList ∧ IsPart p.2.toList) :
    parseAll (['\n'].intercalate (pairs.map fun p ↦ p.1.toList ++ separator ++ p.2.toList)) =
        pairs.map (fun p ↦ { name := p.1, rule := p.2, notes := p.2 }) ↔
      ∀ p ∈ pairs, ¬separator <:+: p.1.toList ∧ ¬[' ', '-'] <:+ p.1.toList := by
  have hlines : ∀ l ∈ pairs.map fun p ↦ p.1.toList ++ separator ++ p.2.toList, IsPart l := by
    intro l hl
    obtain ⟨p, hp, rfl⟩ := List.mem_map.mp hl
    exact (h p hp).1.append_separator (h p hp).2
  rw [parseAll_intercalate hlines, List.map_map, List.map_inj_left]
  refine forall₂_congr fun p hp ↦ ?_
  have hnamed : named p.1.toList p.2.toList = { name := p.1, rule := p.2, notes := p.2 } := by
    rw [named, String.ofList_toList, String.ofList_toList]
  rw [Function.comp_apply, ← hnamed, parse_append_separator_iff (h p hp).1 (h p hp).2,
    isBeforeSeparator_iff]

/-- A name may begin with a hyphen, and rules may hold separators. -/
theorem parseAll_printed_separators :
    let pairs := [("-", "- 5th of every month"), ("Year-End", "december 31 - no shift - check")]
    (∀ p ∈ pairs, IsPart p.1.toList ∧ IsPart p.2.toList) ∧
      parseAll (['\n'].intercalate (pairs.map fun p ↦ p.1.toList ++ separator ++ p.2.toList)) =
        pairs.map fun p ↦ { name := p.1, rule := p.2, notes := p.2 } := by
  intro pairs
  have hparts : ∀ p ∈ pairs, IsPart p.1.toList ∧ IsPart p.2.toList := by decide +kernel
  exact ⟨hparts, (parseAll_printed_iff pairs hparts).mpr (by decide +kernel)⟩

end RuleCalendar.RuleLine
