import Mathlib.Data.List.Basic
import RuleCalendar.Text.Blank

/-!
# Replacing in texts

Each occurrence of a text in another is replaced by a third. Occurrences are looked for from the
left and do not overlap; what is put in is not looked at again. Main statements: to replace one
character is to map it; marks between parts are taken out where their first character stands in none
of the parts; and line ends are read as line feeds in two passes over the text.
-/

namespace RuleCalendar.Text

/-- The text with each occurrence of `old` replaced by `new`, where `skip` characters are left of an
occurrence that began before it. -/
def replaceFrom (old new : List Char) : Nat → List Char → List Char
  | _, [] => []
  | skip + 1, _ :: s => replaceFrom old new skip s
  | 0, c :: s =>
    if old.isPrefixOf (c :: s) then new ++ replaceFrom old new (old.length - 1) s
    else c :: replaceFrom old new 0 s

/-- The text with each occurrence of `old`, which is not empty, replaced by `new`. -/
def replaceAll (old new s : List Char) : List Char := replaceFrom old new 0 s

/-- In an empty text nothing is replaced. -/
theorem replaceAll_nil (old new : List Char) : replaceAll old new [] = [] := by
  rw [replaceAll, replaceFrom]

private theorem replaceFrom_eq_drop (old new : List Char) (skip : Nat) (s : List Char) :
    replaceFrom old new skip s = replaceAll old new (s.drop skip) := by
  induction s generalizing skip with
  | nil => rw [replaceFrom, List.drop_nil, replaceAll_nil]
  | cons c s ih =>
    cases skip with
    | zero => rfl
    | succ skip => rw [replaceFrom, ih, List.drop_succ_cons]

/-- What is looked for is replaced where it begins the text. -/
theorem replaceAll_append_self (x : Char) (old new s : List Char) :
    replaceAll (x :: old) new ((x :: old) ++ s) = new ++ replaceAll (x :: old) new s := by
  have hbegins : (x :: old).isPrefixOf (x :: (old ++ s)) = true := by
    rw [List.isPrefixOf_iff_prefix]
    exact List.prefix_append (x :: old) s
  rw [List.cons_append, replaceAll, replaceFrom, if_pos hbegins, replaceFrom_eq_drop,
    List.length_cons, Nat.add_sub_cancel, List.drop_left]

/-- A character that does not begin what is looked for is kept. -/
theorem replaceAll_cons {old : List Char} {c : Char} {s : List Char}
    (h : old.isPrefixOf (c :: s) = false) (new : List Char) :
    replaceAll old new (c :: s) = c :: replaceAll old new s := by
  rw [replaceAll, replaceFrom, if_neg (by simp [h])]
  rfl

/-- A character that what is replaced does not begin with is kept. -/
theorem replaceAll_cons_of_ne {x c : Char} (h : c ≠ x) (old new s : List Char) :
    replaceAll (x :: old) new (c :: s) = c :: replaceAll (x :: old) new s := by
  apply replaceAll_cons
  simp [List.isPrefixOf, h.symm]

/-- A text that the first character of what is looked for does not stand in is kept. -/
theorem replaceAll_append {x : Char} {s : List Char} (h : x ∉ s) (old new t : List Char) :
    replaceAll (x :: old) new (s ++ t) = s ++ replaceAll (x :: old) new t := by
  induction s with
  | nil => rfl
  | cons c s ih =>
    rw [List.mem_cons, not_or] at h
    rw [List.cons_append, replaceAll_cons_of_ne (Ne.symm h.1), ih h.2, List.cons_append]

/-- Marks between parts that their first character does not stand in are taken out. -/
theorem replaceAll_intercalate {x : Char} {ls : List (List Char)} (h : ∀ l ∈ ls, x ∉ l)
    (old : List Char) : replaceAll (x :: old) [] ((x :: old).intercalate ls) = ls.flatten := by
  induction ls with
  | nil => exact replaceAll_nil _ _
  | cons l ls ih =>
    have hl := h l List.mem_cons_self
    have hrest := ih fun k hk ↦ h k (List.mem_cons_of_mem l hk)
    cases ls with
    | nil =>
      have hend := replaceAll_append hl old [] []
      rw [replaceAll_nil, List.append_nil] at hend
      rw [List.intercalate_singleton, hend, List.flatten_singleton]
    | cons k ls =>
      rw [List.intercalate_cons_cons, List.append_assoc, replaceAll_append hl,
        replaceAll_append_self, hrest, List.nil_append]
      rfl

/-- To replace one character is to write something else for it. -/
theorem replaceAll_singleton (x : Char) (new s : List Char) :
    replaceAll [x] new s = s.flatMap fun c ↦ if c = x then new else [c] := by
  induction s with
  | nil => exact replaceAll_nil [x] new
  | cons c s ih =>
    rw [List.flatMap_cons, ← ih]
    by_cases hc : c = x
    · subst hc
      rw [if_pos rfl]
      exact replaceAll_append_self c [] new s
    · rw [if_neg hc, replaceAll_cons_of_ne hc, List.singleton_append]

/-! ### Line ends in passes -/

/-- The text with a line feed for each carriage return with a line feed after it, then for each
carriage return that is left. -/
def newlinePasses (s : List Char) : List Char :=
  replaceAll ['\r'] ['\n'] (replaceAll ['\r', '\n'] ['\n'] s)

/-- Line ends are read as line feeds by the passes over the text. -/
theorem plainNewlines_eq_passes (s : List Char) : plainNewlines s = newlinePasses s := by
  unfold newlinePasses
  induction s using plainNewlines.induct with
  | case1 => rw [plainNewlines, replaceAll_nil, replaceAll_nil]
  | case2 rest ih =>
    have hpair := replaceAll_append_self '\r' ['\n'] ['\n'] rest
    have hfeed : '\n' ≠ '\r' := by decide
    rw [List.cons_append, List.cons_append, List.nil_append, List.singleton_append] at hpair
    rw [plainNewlines, ih, hpair, replaceAll_cons_of_ne hfeed]
  | case3 c rest hpair ih =>
    have hbegins : ['\r', '\n'].isPrefixOf (c :: rest) = false := by
      rw [Bool.eq_false_iff, ne_eq, List.isPrefixOf_iff_prefix]
      rintro ⟨t, ht⟩
      obtain ⟨rfl, hrest⟩ := List.cons_eq_cons.mp ht
      exact hpair t rfl hrest.symm
    rw [plainNewlines, ih, replaceAll_cons hbegins]
    · by_cases hc : c = '\r'
      · subst hc
        rw [if_pos rfl]
        exact (replaceAll_append_self '\r' [] ['\n'] _).symm
      · rw [if_neg hc, replaceAll_cons_of_ne hc]
    · exact hpair

end RuleCalendar.Text
