import Mathlib.Data.List.Forall2
import RuleCalendar.Proofs.RuleLine.Lines

/-!
# The separator of a rule line

A line is trimmed before the separator is looked for. A separator begins and ends with a space, so
one that touches an end of the line loses a space and is none any more. Main statement: a line that
is not blank is read at its first separator if there is more than blanks on both sides of it; with
blanks only behind it its hyphen stays at the end of the name, and with blanks only before it the
reading goes on from its hyphen. Exactly the lines with such a first separator are read otherwise
than they would be without trimming.
-/

namespace RuleCalendar.RuleLine

open Text (allBlank strip stripStart stripEnd)

variable {a b l s : List Char}

/-! ### The first separator -/

/-- Whether a separator after a text is the first one there is. -/
def IsBeforeSeparator (b : List Char) : Prop := ¬separator <:+: b ++ [' ', '-']

instance (b : List Char) : Decidable (IsBeforeSeparator b) :=
  inferInstanceAs (Decidable ¬separator <:+: b ++ [' ', '-'])

/-- A separator comes first after a text in which there is none and none begins. -/
theorem isBeforeSeparator_iff :
    IsBeforeSeparator b ↔ ¬separator <:+: b ∧ ¬[' ', '-'] <:+ b := by
  have hparts : b ++ [' ', '-'] = b ++ [' '] ++ ['-'] := by
    rw [List.append_assoc, List.singleton_append]
  have hend : ¬separator <:+ b ++ [' '] ++ ['-'] := by
    intro h
    have hlast := h.getLast (by decide)
    rw [List.getLast_concat] at hlast
    exact absurd hlast (by decide)
  have hshorter : [' ', '-'] ++ [' '] <:+ b ++ [' '] ↔ [' ', '-'] <:+ b :=
    List.suffix_append_self_iff
  have hspace : separator <:+ b ++ [' '] ↔ [' ', '-'] <:+ b := hshorter
  rw [IsBeforeSeparator, hparts, List.infix_concat_iff, or_iff_right hend, List.infix_concat_iff,
    hspace, not_or, and_comm]

private theorem IsBeforeSeparator.of_suffix (h : IsBeforeSeparator b) (hs : s <:+ b) :
    IsBeforeSeparator s := by
  obtain ⟨t, rfl⟩ := hs
  intro hwithin
  rw [IsBeforeSeparator, List.append_assoc] at h
  exact h (hwithin.trans (List.suffix_append t _).isInfix)

/-- No separator of a line comes before the first. -/
theorem IsBeforeSeparator.length_le {a' b' : List Char} (hb : IsBeforeSeparator b)
    (h : b ++ separator ++ a = b' ++ separator ++ a') : b.length ≤ b'.length := by
  by_contra hlater
  apply hb
  have hfirst : b ++ [' ', '-'] <+: b ++ separator ++ a := ⟨' ' :: a, by simp [separator]⟩
  have hother : b' ++ separator <+: b ++ separator ++ a := h ▸ List.prefix_append _ a'
  have hbegins : b' ++ separator <+: b ++ [' ', '-'] := by
    apply List.prefix_of_prefix_length_le hother hfirst
    simp only [separator, List.length_append, List.length_cons, List.length_nil]
    omega
  exact (List.suffix_append b' separator).isInfix.trans hbegins.isInfix

/-- A line has one first separator. -/
theorem IsBeforeSeparator.append_inj {a' b' : List Char} (hb : IsBeforeSeparator b)
    (hb' : IsBeforeSeparator b') (h : b ++ separator ++ a = b' ++ separator ++ a') :
    b = b' ∧ a = a' := by
  have hlength : b.length = b'.length := Nat.le_antisymm (hb.length_le h) (hb'.length_le h.symm)
  obtain ⟨hsame, ha⟩ := List.append_inj h (by rw [List.length_append, List.length_append, hlength])
  exact ⟨(List.append_inj hsame hlength).1, ha⟩

/-- A line is parted at its first separator, if it has one. -/
theorem splitAtSeparator_cases (s : List Char) :
    (¬separator <:+: s ∧ splitAtSeparator s = (s, [])) ∨
      ∃ b a, s = b ++ separator ++ a ∧ IsBeforeSeparator b ∧ splitAtSeparator s = (b, a) := by
  induction s with
  | nil => exact .inl ⟨by decide, rfl⟩
  | cons c s ih =>
    rw [splitAtSeparator]
    split
    · next hbegins =>
      obtain ⟨a, ha⟩ := List.isPrefixOf_iff_prefix.mp hbegins
      refine .inr ⟨[], a, ha.symm, by decide, ?_⟩
      rw [← ha]
      rfl
    · next hbegins =>
      rw [List.isPrefixOf_iff_prefix] at hbegins
      obtain ⟨hnone, hs⟩ | ⟨b, a, rfl, hb, hs⟩ := ih
      · left
        rw [List.infix_cons_iff, not_or, hs]
        exact ⟨⟨hbegins, hnone⟩, rfl⟩
      · refine .inr ⟨c :: b, a, rfl, ?_, by rw [hs]⟩
        rw [IsBeforeSeparator, List.cons_append, List.infix_cons_iff, not_or]
        refine ⟨fun h ↦ hbegins (h.trans ⟨' ' :: a, ?_⟩), hb⟩
        simp [separator]

private theorem splitAtSeparator_of_no_separator (h : ¬separator <:+: s) : splitAtSeparator s = (s, []) := by
  obtain ⟨-, hs⟩ | ⟨b, a, rfl, -, -⟩ := splitAtSeparator_cases s
  · exact hs
  · exact absurd (List.infix_append b separator a) h

/-- The separator after a text is the first one exactly if the line is parted there. -/
theorem splitAtSeparator_append_iff :
    splitAtSeparator (b ++ separator ++ a) = (b, a) ↔ IsBeforeSeparator b := by
  obtain ⟨hnone, -⟩ | ⟨b', a', h, hb', hs⟩ := splitAtSeparator_cases (b ++ separator ++ a)
  · exact absurd (List.infix_append b separator a) hnone
  · rw [hs, Prod.mk.injEq]
    constructor
    · rintro ⟨rfl, -⟩
      exact hb'
    · intro hb
      obtain ⟨rfl, rfl⟩ := hb.append_inj hb' h
      exact ⟨rfl, rfl⟩

/-! ### Trimmed lines -/

/-- The rule line with a name and a rule. -/
def named (name rule : List Char) : RuleLine :=
  { name := String.ofList name, rule := String.ofList rule, notes := String.ofList rule }

/-- Rule lines with a name and a rule differ where either does. -/
theorem named_inj {name name' rule rule' : List Char} :
    named name rule = named name' rule' ↔ name = name' ∧ rule = rule' := by
  simp [named, String.ofList_inj]

private theorem name_named_ne_empty {name : List Char} (h : name ≠ []) (rule : List Char) :
    (named name rule).name ≠ "" := by
  simpa [named] using h

private theorem parse_of_no_separator (h : ¬separator <:+: s) : parse s = named (strip s) [] := by
  rw [parse, splitAtSeparator_of_no_separator h]
  rfl

/-- A line is taken apart at its first separator, and both parts are trimmed. -/
theorem parse_append (hb : IsBeforeSeparator b) (a : List Char) :
    parse (b ++ separator ++ a) = named (strip b) (strip a) := by
  rw [parse, splitAtSeparator_append_iff.mpr hb]
  rfl

/-- How a line is read. -/
inductive IsReadAs : List Char → RuleLine → Prop
  /-- A line without a separator is a name. -/
  | whole {l : List Char} : ¬separator <:+: l → IsReadAs l (named (strip l) [])
  /-- The first separator parts the name and the rule. -/
  | parted {b a : List Char} : IsBeforeSeparator b → allBlank b = false → allBlank a = false →
      IsReadAs (b ++ separator ++ a) (named (strip b) (strip a))
  /-- A separator with blanks only behind it stays at the end of the name. -/
  | unruled {b a : List Char} : IsBeforeSeparator b → allBlank b = false → allBlank a = true →
      IsReadAs (b ++ separator ++ a) (named (stripStart b ++ [' ', '-']) [])
  /-- A line with blanks only before its first separator is read from the hyphen on. -/
  | unnamed {b a : List Char} {line : RuleLine} : IsBeforeSeparator b → allBlank b = true →
      IsReadAs ('-' :: ' ' :: a) line → IsReadAs (b ++ separator ++ a) line

private theorem isReadAs_of_no_separator (h : ¬separator <:+: l) : IsReadAs l (parse (strip l)) := by
  have hnone : ¬separator <:+: strip l := fun hs ↦ h (hs.trans (Text.isInfix_strip l))
  rw [parse_of_no_separator hnone, Text.strip_strip]
  exact .whole h

private theorem isReadAs_append (hb : IsBeforeSeparator b) (hname : allBlank b = false) (a : List Char) :
    IsReadAs (b ++ separator ++ a) (parse (strip (b ++ separator ++ a))) := by
  have hfirst : IsBeforeSeparator (stripStart b) :=
    hb.of_suffix (List.dropWhile_suffix Text.isBlank)
  have hstart : strip (b ++ separator ++ a) = stripEnd (stripStart b ++ separator ++ a) := by
    rw [strip, List.append_assoc, Text.stripStart_append hname, ← List.append_assoc]
  cases ha : allBlank a with
  | true =>
    have hblank : allBlank (' ' :: a) = true := ha
    have hline : strip (b ++ separator ++ a) = stripStart b ++ [' ', '-'] := by
      have hparts : separator ++ a = [' ', '-'] ++ ' ' :: a := rfl
      rw [hstart, List.append_assoc, hparts, ← List.append_assoc,
        Text.stripEnd_append_blanks hblank, Text.stripEnd_append rfl]
      rfl
    rw [parse_of_no_separator (hline ▸ hfirst), Text.strip_strip, hline]
    exact .unruled hb hname ha
  | false =>
    rw [hstart, Text.stripEnd_append ha, parse_append hfirst, Text.strip_stripStart,
      Text.strip_stripEnd]
    exact .parted hb hname ha

/-- Each line is read as it is trimmed. -/
theorem isReadAs_parse_strip (l : List Char) : IsReadAs l (parse (strip l)) := by
  obtain ⟨hnone, -⟩ | ⟨b, a, rfl, hb, -⟩ := splitAtSeparator_cases l
  · exact isReadAs_of_no_separator hnone
  cases hname : allBlank b with
  | false => exact isReadAs_append hb hname a
  | true =>
    have hblank : allBlank (b ++ [' ']) = true := by rw [Text.allBlank_append, hname]; rfl
    have hline : strip (b ++ separator ++ a) = strip ('-' :: ' ' :: a) := by
      rw [← Text.strip_blanks_append hblank ('-' :: ' ' :: a), List.append_assoc, List.append_assoc]
      rfl
    rw [hline]
    apply IsReadAs.unnamed hb hname
    -- the line that is left begins with a hyphen, so that its first separator has a name before it
    obtain ⟨hnone, -⟩ | ⟨b', a', h, hb', -⟩ := splitAtSeparator_cases ('-' :: ' ' :: a)
    · exact isReadAs_of_no_separator hnone
    · rw [h]
      apply isReadAs_append hb'
      cases b' with
      | nil => exact absurd (List.cons.inj h).1 (by decide)
      | cons c b' =>
        obtain rfl : '-' = c := (List.cons.inj h).1
        rfl

/-- No line with more than blanks on it is read without a name. -/
theorem IsReadAs.name_ne_empty {line : RuleLine} (h : IsReadAs l line) (hl : allBlank l = false) :
    line.name ≠ "" := by
  induction h with
  | whole _ =>
    apply name_named_ne_empty
    rw [ne_eq, Text.strip_eq_nil_iff, hl]
    exact Bool.false_ne_true
  | parted _ hname _ =>
    apply name_named_ne_empty
    rw [ne_eq, Text.strip_eq_nil_iff, hname]
    exact Bool.false_ne_true
  | unruled _ _ _ => exact name_named_ne_empty (by simp) []
  | unnamed _ _ _ ih => exact ih rfl

/-- Whether the first separator of a line has blanks only on one of its sides. -/
def TouchesEnd (l : List Char) : Prop :=
  ∃ b a, l = b ++ separator ++ a ∧ IsBeforeSeparator b ∧ (allBlank b = true ∨ allBlank a = true)

private theorem touchesEnd_append_iff (hb : IsBeforeSeparator b) :
    TouchesEnd (b ++ separator ++ a) ↔ allBlank b = true ∨ allBlank a = true := by
  constructor
  · rintro ⟨b', a', h, hb', hblank⟩
    obtain ⟨rfl, rfl⟩ := hb.append_inj hb' h
    exact hblank
  · intro hblank
    exact ⟨b, a, rfl, hb, hblank⟩

/-- Trimming changes the reading of exactly the lines whose first separator touches an end. -/
theorem IsReadAs.eq_parse_iff {line : RuleLine} (h : IsReadAs l line) :
    line = parse l ↔ ¬TouchesEnd l := by
  cases h with
  | whole hnone =>
    rw [parse_of_no_separator hnone, eq_self, true_iff]
    rintro ⟨b, a, rfl, -, -⟩
    exact hnone (List.infix_append b separator a)
  | parted hb hname hrule =>
    rw [parse_append hb, touchesEnd_append_iff hb, hname, hrule]
    simp
  | @unruled b a hb hname hrule =>
    rw [parse_append hb, touchesEnd_append_iff hb, hrule, named_inj]
    have hlonger : stripStart b ++ [' ', '-'] ≠ strip b := by
      intro h
      have hlength := (Text.isPrefix_stripEnd (stripStart b)).length_le
      rw [← strip, ← h, List.length_append, List.length_cons] at hlength
      omega
    simp [hlonger]
  | @unnamed b a _ hb hname h =>
    rw [parse_append hb, touchesEnd_append_iff hb, hname, Text.strip_eq_nil_iff.mpr hname]
    have hline : line ≠ named [] (strip a) := by
      rintro rfl
      exact h.name_ne_empty rfl rfl
    simp [hline]

/-- Each line that is not blank is read as it is trimmed, and the lines of a text are read as they
stand exactly if the first separator of none of them touches an end. -/
theorem parseAll_readings (text : List Char) :
    List.Forall₂ IsReadAs (Text.filledLines (Text.fold text)) (parseAll text) ∧
      (parseAll text = (Text.filledLines (Text.fold text)).map parse ↔
        ∀ l ∈ Text.filledLines (Text.fold text), ¬TouchesEnd l) := by
  rw [parseAll_eq, List.forall₂_map_right_iff, List.forall₂_same, List.map_inj_left]
  exact ⟨fun l _ ↦ isReadAs_parse_strip l,
    forall₂_congr fun l _ ↦ (isReadAs_parse_strip l).eq_parse_iff⟩

/-- Without a rule or a name the hyphen of the separator is taken for a part of the name. -/
theorem exists_parseAll_ne : ∃ text : List Char,
    parseAll text = [{ name := "- daily" }, { name := "Close -" }] ∧
      (Text.filledLines (Text.fold text)).map parse =
        [{ name := "", rule := "daily", notes := "daily" }, { name := "Close" }] :=
  ⟨" - daily\nClose - ".toList, by decide⟩

end RuleCalendar.RuleLine
