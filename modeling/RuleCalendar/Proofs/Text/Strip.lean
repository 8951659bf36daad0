import Mathlib.Data.List.DropRight
import RuleCalendar.Text.Blank
import RuleCalendar.Text.Layout

/-!
# Blanks at the ends of a text

Stripping takes the blanks at the ends of a text and nothing else. Main statements: blanks that are
put before or behind a text are taken again; a text is stripped if it neither begins nor ends with a
blank, and a text that holds more than blanks keeps what stands between its first and its last
character that is none; padding gives the blanks at the end back if they are spaces.
-/

namespace RuleCalendar.Text

variable {s t b : List Char}

/-- A text made of two parts is blank if both are. -/
theorem allBlank_append : allBlank (s ++ t) = (allBlank s && allBlank t) := List.all_append

private theorem allBlank_reverse : allBlank s.reverse = allBlank s := List.all_reverse

/-! ### The start of a text -/

private theorem stripStart_blanks_append (hb : allBlank b = true) (s : List Char) :
    stripStart (b ++ s) = stripStart s :=
  List.dropWhile_append_of_pos (List.all_eq_true.mp hb)

/-- What follows a text that holds more than blanks is kept. -/
theorem stripStart_append (hs : allBlank s = false) (t : List Char) :
    stripStart (s ++ t) = stripStart s ++ t := by
  have hne : (s.dropWhile isBlank).isEmpty = false := by
    rw [Bool.eq_false_iff, ne_eq, List.isEmpty_iff, List.dropWhile_eq_nil_iff, ← List.all_eq_true]
    exact Bool.eq_false_iff.mp hs
  rw [stripStart, List.dropWhile_append, hne, if_neg Bool.false_ne_true, stripStart]

/-- A text is its blanks at the start and what is left without them. -/
theorem exists_stripStart (s : List Char) : ∃ b, allBlank b = true ∧ b ++ stripStart s = s :=
  ⟨s.takeWhile isBlank, List.all_takeWhile, List.takeWhile_append_dropWhile⟩

private theorem stripStart_eq_self_iff :
    stripStart s = s ↔ ∀ c, s.head? = some c → isBlank c = false := by
  rw [stripStart, List.dropWhile_eq_self_iff]
  cases s <;> simp

/-! ### The end of a text -/

/-- Blanks after a text are among those left out at its end. -/
theorem stripEnd_append_blanks (hb : allBlank b = true) (s : List Char) :
    stripEnd (s ++ b) = stripEnd s := by
  rw [stripEnd, List.reverse_append]
  exact congrArg List.reverse (stripStart_blanks_append (allBlank_reverse.trans hb) s.reverse)

/-- What stands before a text that holds more than blanks is kept. -/
theorem stripEnd_append (ht : allBlank t = false) (s : List Char) :
    stripEnd (s ++ t) = s ++ stripEnd t := by
  have hstart := stripStart_append (allBlank_reverse.trans ht) s.reverse
  rw [stripStart, stripStart] at hstart
  rw [stripEnd, List.reverse_append, hstart, List.reverse_append, List.reverse_reverse, stripEnd]

/-- Leaving out the blanks at the end of a text leaves its beginning. -/
theorem isPrefix_stripEnd (s : List Char) : stripEnd s <+: s := List.rdropWhile_prefix isBlank s

/-- A text is what is left without its blanks at the end and these blanks. -/
theorem exists_stripEnd (s : List Char) : ∃ b, allBlank b = true ∧ stripEnd s ++ b = s := by
  obtain ⟨b, hb, hs⟩ := exists_stripStart s.reverse
  refine ⟨b.reverse, allBlank_reverse.trans hb, ?_⟩
  rw [← List.reverse_inj, List.reverse_append, stripEnd, List.reverse_reverse, List.reverse_reverse]
  exact hs

private theorem stripEnd_eq_self_iff :
    stripEnd s = s ↔ ∀ c, s.getLast? = some c → isBlank c = false := by
  have hdrop : stripEnd s = s.rdropWhile isBlank := rfl
  rw [hdrop, List.rdropWhile_eq_self_iff]
  cases s using List.reverseRecOn <;> simp

private theorem stripEnd_eq_nil_iff : stripEnd s = [] ↔ allBlank s = true :=
  List.rdropWhile_eq_nil_iff.trans List.all_eq_true.symm

/-- Blanks are taken from the end up to the last character that is none. -/
theorem stripEnd_append_cons {c : Char} (h : isBlank c = false) (s t : List Char) :
    stripEnd (s ++ c :: t) = s ++ c :: stripEnd t := by
  have hcons : stripEnd ([c] ++ t) = [c] ++ stripEnd t := by
    cases ht : allBlank t with
    | true =>
      rw [stripEnd_append_blanks ht, stripEnd_eq_nil_iff.mpr ht,
        stripEnd_eq_self_iff.mpr (by simp [h]), List.append_nil]
    | false => exact stripEnd_append ht [c]
  rw [stripEnd_append (by simp [allBlank, h])]
  exact congrArg (s ++ ·) hcons

/-! ### Both ends -/

/-- A trimmed text is a part of the text. -/
theorem isInfix_strip (s : List Char) : strip s <:+: s :=
  (isPrefix_stripEnd _).isInfix.trans (List.dropWhile_suffix isBlank).isInfix

/-- A trimmed text holds characters of the text, in order. -/
theorem strip_sublist (s : List Char) : (strip s).Sublist s := (isInfix_strip s).sublist

/-- Stripping keeps a text that neither begins nor ends with a blank. -/
theorem strip_eq_self_iff : strip s = s ↔ (∀ c, s.head? = some c → isBlank c = false) ∧
    ∀ c, s.getLast? = some c → isBlank c = false := by
  rw [← stripStart_eq_self_iff, ← stripEnd_eq_self_iff]
  constructor
  · intro h
    have hend := (isPrefix_stripEnd (stripStart s)).sublist
    rw [← strip, h] at hend
    have hstart : stripStart s = s :=
      (List.dropWhile_sublist isBlank).eq_of_length_le hend.length_le
    refine ⟨hstart, ?_⟩
    rwa [strip, hstart] at h
  · rintro ⟨hstart, hend⟩
    rw [strip, hstart, hend]

/-- Only texts of blanks are stripped of everything. -/
theorem strip_eq_nil_iff : strip s = [] ↔ allBlank s = true := by
  obtain ⟨b, hb, hs⟩ := exists_stripStart s
  rw [strip, stripEnd_eq_nil_iff]
  conv_rhs => rw [← hs, allBlank_append, hb, Bool.true_and]

/-- Blanks before a text are trimmed away. -/
theorem strip_blanks_append (hb : allBlank b = true) (s : List Char) :
    strip (b ++ s) = strip s := by
  rw [strip, stripStart_blanks_append hb, strip]

private theorem strip_append_blanks (hb : allBlank b = true) (s : List Char) :
    strip (s ++ b) = strip s := by
  cases hs : allBlank s with
  | true => rw [strip_eq_nil_iff.mpr hs, strip_eq_nil_iff, allBlank_append, hs, hb, Bool.and_self]
  | false => rw [strip, stripStart_append hs, stripEnd_append_blanks hb, strip]

/-- Trimming leaves out the blanks at the start in any case. -/
theorem strip_stripStart (s : List Char) : strip (stripStart s) = strip s := by
  obtain ⟨b, hb, hs⟩ := exists_stripStart s
  rw [← strip_blanks_append hb, hs]

/-- Trimming leaves out the blanks at the end in any case. -/
theorem strip_stripEnd (s : List Char) : strip (stripEnd s) = strip s := by
  obtain ⟨b, hb, hs⟩ := exists_stripEnd s
  rw [← strip_append_blanks hb, hs]

/-- A trimmed text is trimmed. -/
theorem strip_strip (s : List Char) : strip (strip s) = strip s :=
  (strip_stripEnd (stripStart s)).trans (strip_stripStart s)

/-! ### Spaces at the end -/

/-- The blanks at the end of a text are spaces. -/
def OnlySpacesAtEnd (s : List Char) : Prop := ∀ c ∈ s.rtakeWhile isBlank, c = ' '

instance (s : List Char) : Decidable (OnlySpacesAtEnd s) :=
  List.decidableBAll (· = ' ') (s.rtakeWhile isBlank)

/-- The blanks at the end of spaces are spaces. -/
theorem onlySpacesAtEnd_spaces (n : Nat) : OnlySpacesAtEnd (spaces n) := by
  intro c hc
  exact List.eq_of_mem_replicate ((List.rtakeWhile_suffix isBlank _).subset hc)

/-- Two texts with only spaces at their ends make one with only spaces at its end. -/
theorem OnlySpacesAtEnd.append (hs : OnlySpacesAtEnd s) (ht : OnlySpacesAtEnd t) :
    OnlySpacesAtEnd (s ++ t) := by
  intro c hc
  rw [List.rtakeWhile, List.reverse_append, List.mem_reverse, List.takeWhile_append] at hc
  split at hc
  · next hall =>
    -- All of the second text is blank, so that the blanks go on into the first.
    obtain hc | hc := List.mem_append.mp hc
    · apply ht
      have hself : t.reverse.takeWhile isBlank = t.reverse :=
        (List.takeWhile_prefix isBlank).eq_of_length hall
      rwa [List.rtakeWhile, List.mem_reverse, hself]
    · exact hs c (List.mem_reverse.mpr hc)
  · exact ht c (List.mem_reverse.mpr hc)

/-- Texts with only spaces at their ends, and a mark of this kind between them, make one of this
kind. -/
theorem OnlySpacesAtEnd.intercalate {mark : List Char} {parts : List (List Char)}
    (hmark : OnlySpacesAtEnd mark) (hparts : ∀ part ∈ parts, OnlySpacesAtEnd part) :
    OnlySpacesAtEnd (mark.intercalate parts) := by
  induction parts with
  | nil => exact onlySpacesAtEnd_spaces 0
  | cons part parts ih =>
    rw [List.forall_mem_cons] at hparts
    cases parts with
    | nil =>
      rw [List.intercalate_singleton]
      exact hparts.1
    | cons next parts =>
      rw [List.intercalate_cons_cons]
      exact (hparts.1.append hmark).append (ih hparts.2)

/-- Padding a text without its blanks at the end gives the text back just where these are spaces. -/
theorem padRight_stripEnd_iff : padRight s.length (stripEnd s) = s ↔ OnlySpacesAtEnd s := by
  have hsplit : stripEnd s ++ s.rtakeWhile isBlank = s := List.rdropWhile_append_rtakeWhile
  have hlength : s.length - (stripEnd s).length = (s.rtakeWhile isBlank).length := by
    have happend := congrArg List.length hsplit
    rw [List.length_append] at happend
    omega
  rw [padRight, hlength, spaces, OnlySpacesAtEnd]
  conv_lhs => rhs; rw [← hsplit]
  rw [List.append_cancel_left_eq, eq_comm, List.eq_replicate_iff, and_iff_right rfl]

end RuleCalendar.Text
