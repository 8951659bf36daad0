import Mathlib.Algebra.Group.Nat.Even
import Mathlib.Data.List.DropRight
import RuleCalendar.Proofs.Export.EndFree
import RuleCalendar.Proofs.Text.Replace

/-!
# Text values

A text value is escaped character by character. Main statement: an escaped value is read as the text
without its carriage returns, no line ends in it, its commas and semicolons stand after an odd number
of backslashes, and values are escaped part by part. To replace backslashes, semicolons, commas and
line ends in the whole text, one kind after the other, comes to the same.
-/

namespace RuleCalendar.ICalendar

open Text (replaceAll)

/-! ### Escaping in passes -/

/-- The text with a backslash before each backslash, then each semicolon, then each comma. -/
def markPasses (s : List Char) : List Char :=
  replaceAll [','] ['\\', ','] (replaceAll [';'] ['\\', ';'] (replaceAll ['\\'] ['\\', '\\'] s))

/-- The text with a backslash and an `n` for each carriage return with a line feed after it, then for
each line feed, and without the carriage returns that are left. -/
def breakPasses (s : List Char) : List Char :=
  replaceAll ['\r'] [] (replaceAll ['\n'] ['\\', 'n'] (replaceAll ['\r', '\n'] ['\\', 'n'] s))

/-- What the passes over backslashes, semicolons and commas make of a character. -/
def escapeMark (c : Char) : List Char :=
  if c = '\\' ∨ c = ';' ∨ c = ',' then ['\\', c] else [c]

/-- What the passes over line ends make of a character. -/
def escapeBreak (c : Char) : List Char :=
  if c = '\n' then ['\\', 'n'] else if c = '\r' then [] else [c]

private theorem markPasses_eq (s : List Char) : markPasses s = s.flatMap escapeMark := by
  simp only [markPasses, Text.replaceAll_singleton, List.flatMap_assoc]
  congr 1
  funext c
  by_cases hbackslash : c = '\\'
  · subst hbackslash
    decide
  by_cases hsemicolon : c = ';'
  · subst hsemicolon
    decide
  by_cases hcomma : c = ','
  · subst hcomma
    decide
  · simp [escapeMark, hbackslash, hsemicolon, hcomma]

/-- The pass over carriage returns with a line feed after them takes nothing from the two passes that
follow it: a carriage return before a line feed is left out in any case. -/
theorem flatMap_escapeBreak_replaceAll (s : List Char) :
    (replaceAll ['\r', '\n'] ['\\', 'n'] s).flatMap escapeBreak = s.flatMap escapeBreak := by
  induction s with
  | nil => rw [Text.replaceAll_nil]
  | cons c s ih =>
    cases hbegins : ['\r', '\n'].isPrefixOf (c :: s) with
    | false => rw [Text.replaceAll_cons hbegins, List.flatMap_cons, ih, List.flatMap_cons]
    | true =>
      obtain ⟨t, ht⟩ := List.isPrefixOf_iff_prefix.mp hbegins
      simp only [List.cons_append, List.nil_append, List.cons.injEq] at ht
      obtain ⟨rfl, rfl⟩ := ht
      have hfeed : '\n' ≠ '\r' := by decide
      rw [Text.replaceAll_cons_of_ne hfeed] at ih
      have hreplaced := Text.replaceAll_append_self '\r' ['\n'] ['\\', 'n'] t
      calc (replaceAll ['\r', '\n'] ['\\', 'n'] (['\r', '\n'] ++ t)).flatMap escapeBreak
        _ = ('\n' :: replaceAll ['\r', '\n'] ['\\', 'n'] t).flatMap escapeBreak := by
          rw [hreplaced, List.flatMap_append]
          rfl
        _ = ('\n' :: t).flatMap escapeBreak := ih

private theorem breakPasses_eq (s : List Char) : breakPasses s = s.flatMap escapeBreak := by
  rw [← flatMap_escapeBreak_replaceAll, breakPasses, Text.replaceAll_singleton,
    Text.replaceAll_singleton, List.flatMap_assoc]
  congr 1
  funext c
  by_cases hfeed : c = '\n'
  · subst hfeed
    decide
  · simp [escapeBreak, hfeed]

/-- A text value is escaped by the passes over it. -/
theorem escape_eq_passes (s : List Char) : escape s = breakPasses (markPasses s) := by
  rw [markPasses_eq, breakPasses_eq, List.flatMap_assoc, escape]
  congr 1
  funext c
  obtain ⟨hspecial, hc⟩ | ⟨rfl, -⟩ | ⟨rfl, -⟩ | ⟨hplain, hbreak, hreturn, hc⟩ := escapeChar_cases c
  · rw [hc, escapeMark, if_pos hspecial]
    rcases hspecial with rfl | rfl | rfl <;> decide
  · decide
  · decide
  · simp [hc, escapeMark, escapeBreak, hplain, hbreak, hreturn]

/-! ### Backslashes before marks -/

/-- The number of backslashes that a text ends in. -/
def endBackslashes (s : List Char) : Nat := (s.rtakeWhile (· = '\\')).length

private theorem endBackslashes_append (s t : List Char) : endBackslashes (s ++ t) =
    if endBackslashes t = t.length then endBackslashes s + t.length else endBackslashes t := by
  simp only [endBackslashes, List.rtakeWhile, List.length_reverse, List.reverse_append,
    List.takeWhile_append]
  split
  · rw [List.length_append, List.length_reverse, Nat.add_comm]
  · rfl

/-- What is written for one character does not change whether backslashes pair off. -/
theorem even_endBackslashes_escapeChar (c : Char) : Even (endBackslashes (escapeChar c)) := by
  obtain ⟨hspecial, hc⟩ | ⟨rfl, -⟩ | ⟨rfl, -⟩ | ⟨hplain, -, -, hc⟩ := escapeChar_cases c
  · rw [hc]
    rcases hspecial with rfl | rfl | rfl <;> decide
  · decide
  · decide
  · have hbackslash : c ≠ '\\' := fun h ↦ hplain (.inl h)
    rw [hc]
    simp [endBackslashes, List.rtakeWhile, hbackslash]

/-- A comma or semicolon is written with one backslash before it. -/
theorem eq_backslash_of_escapeChar {c d : Char} (hd : d = ';' ∨ d = ',') {before after : List Char}
    (h : escapeChar c = before ++ d :: after) : before = ['\\'] := by
  have hmem : d ∈ escapeChar c := by simp [h]
  obtain ⟨-, hc⟩ | ⟨rfl, hc⟩ | ⟨rfl, hc⟩ | ⟨hplain, -, -, hc⟩ := escapeChar_cases c
  · rw [hc] at h
    rcases before with - | ⟨b, - | ⟨b', before⟩⟩
    · rw [List.nil_append, List.cons.injEq] at h
      rw [← h.1] at hd
      exact absurd hd (by decide)
    · rw [List.singleton_append, List.cons.injEq] at h
      rw [h.1]
    · have hlength := congrArg List.length h
      simp at hlength
  · rcases hd with rfl | rfl <;> exact absurd hmem (by decide)
  · exact absurd hmem List.not_mem_nil
  · rw [hc, List.mem_singleton] at hmem
    exact absurd (.inr (hmem ▸ hd)) hplain

/-- Each comma and semicolon of an escaped text value stands after an odd number of backslashes. -/
theorem odd_endBackslashes {s before after : List Char} {d : Char} (hd : d = ';' ∨ d = ',')
    (h : escape s = before ++ d :: after) : Odd (endBackslashes before) := by
  induction s generalizing before with
  | nil => simp [escape] at h
  | cons c s ih =>
    rw [escape_cons] at h
    obtain ⟨rest, hbefore, hrest⟩ | ⟨rest, hchar, hrest⟩ := List.append_eq_append_iff.mp h
    · have hodd := ih hrest
      have heven := even_endBackslashes_escapeChar c
      rw [hbefore, endBackslashes_append]
      split
      · next hall => exact heven.add_odd (hall ▸ hodd)
      · exact hodd
    · cases rest with
      | nil =>
        have hodd : Odd (endBackslashes []) := ih hrest.symm
        exact absurd hodd (by decide)
      | cons b rest =>
        rw [List.cons_append, List.cons.injEq] at hrest
        rw [← hrest.1] at hchar
        rw [eq_backslash_of_escapeChar hd hchar]
        decide

/-! ### Main statement -/

/-- An escaped text value can be read back but for the carriage returns, is free of line ends and of
bare commas and semicolons, and is made up of the escaped parts of the text, wherever it is cut. -/
theorem escape_invertible (s t : List Char) :
    unescape (escape t) = some (withoutReturns t) ∧ EndFree (escape t) ∧
      (∀ before d after, escape t = before ++ d :: after → d = ';' ∨ d = ',' →
        Odd (endBackslashes before)) ∧
      escape (s ++ t) = escape s ++ escape t ∧ escape t = breakPasses (markPasses t) :=
  ⟨unescape_escape t, endFree_escape t, fun _ _ _ h hd ↦ odd_endBackslashes hd h,
    List.flatMap_append, escape_eq_passes t⟩

end RuleCalendar.ICalendar
