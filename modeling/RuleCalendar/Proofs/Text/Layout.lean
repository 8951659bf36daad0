import Mathlib.Data.List.Basic
import RuleCalendar.Proofs.Text.Ascii
import RuleCalendar.Proofs.Text.Decimal

/-!
# Texts in columns

What is joined with a mark or padded to a width can be told apart again. Main statement: a part of a
joined text has the parts before it and the marks after them on its left.
-/

namespace RuleCalendar.Text

private theorem isBlank_of_isDigit {c : Char} (h : c.isDigit = true) : isBlank c = false := by
  have hrange : 48 ≤ c.toNat ∧ c.toNat ≤ 57 := by
    simpa [Char.isDigit, UInt32.le_iff_toNat_le] using h
  simp only [isBlank, Bool.or_eq_false_iff, Bool.and_eq_false_iff, decide_eq_false_iff_not,
    beq_eq_false_iff_ne]
  omega

/-- A number that is not negative is written without a sign. -/
theorem integer_of_nonneg {n : Int} (h : 0 ≤ n) : integer n = decimal n.natAbs :=
  if_neg (by omega)

/-- Decimals end in a character that is no blank. -/
theorem exists_decimal_concat (n : Nat) : ∃ s c, decimal n = s ++ [c] ∧ isBlank c = false := by
  have hne : decimal n ≠ [] := List.length_pos_iff.mp Nat.length_toDigits_pos
  have hlast := isDigit_of_mem_decimal (List.getLast_mem hne)
  exact ⟨_, _, (List.dropLast_append_getLast hne).symm, isBlank_of_isDigit hlast⟩

/-- A number is written as one word. -/
theorem isOneWord_integer (n : Int) : IsOneWord (integer n) := by
  have hdecimal : IsOneWord (decimal n.natAbs) := by
    refine ⟨List.ne_nil_of_length_pos Nat.length_toDigits_pos, fun c hc ↦ ?_⟩
    exact isBlank_of_isDigit (isDigit_of_mem_decimal hc)
  have hminus : IsOneWord ['-'] := by decide
  rw [integer]
  split
  · exact hminus.append hdecimal
  · exact hdecimal

/-- A character that is no digit and no minus sign does not stand in integers. -/
theorem not_mem_integer {c : Char} (hc : c.isDigit = false) (hminus : c ≠ '-') (n : Int) :
    c ∉ integer n := by
  rw [integer]
  split
  · rw [List.mem_cons, not_or]
    exact ⟨hminus, not_mem_decimal hc _⟩
  · exact not_mem_decimal hc _

/-- A text filled up on its left has the width asked for, or its own if that is more. -/
theorem length_padLeft (width : Nat) (s : List Char) :
    (padLeft width s).length = max width s.length := by
  rw [padLeft, spaces, List.length_append, List.length_replicate]
  omega

/-- A text filled up on its right has the width asked for, or its own if that is more. -/
theorem length_padRight (width : Nat) (s : List Char) :
    (padRight width s).length = max width s.length := by
  rw [padRight, spaces, List.length_append, List.length_replicate]
  omega

/-- A part of a joined text, with what stands before it and after it. -/
theorem intercalate_append_cons {α : Type*} (mark : List α) (before : List (List α)) (part : List α)
    (after : List (List α)) : mark.intercalate (before ++ part :: after) =
      before.flatMap (· ++ mark) ++ part ++ after.flatMap (mark ++ ·) := by
  induction before with
  | nil =>
    rw [List.nil_append, List.flatMap_nil, List.nil_append]
    induction after generalizing part with
    | nil => simp
    | cons next after ih =>
      rw [List.intercalate_cons_cons, ih next, List.flatMap_cons]
      simp only [List.append_assoc]
  | cons first before ih =>
    have hne : before ++ part :: after ≠ [] := by simp
    obtain ⟨next, rest, hnext⟩ := List.exists_cons_of_ne_nil hne
    rw [List.cons_append, hnext, List.intercalate_cons_cons, ← hnext, ih, List.flatMap_cons]
    simp only [List.append_assoc]

end RuleCalendar.Text
