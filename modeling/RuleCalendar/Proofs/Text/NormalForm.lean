import RuleCalendar.Proofs.Text.Strip
import RuleCalendar.Text.Spelling

/-!
# The normal form of a text with more text after it

Main statement: the normal form of a text that goes on with a comma is the normal form of its first
part and that of the rest, with a space between them if the first part ends in blanks. A comma is
neither a blank nor a letter, so it parts words and stops the search for letters with case.
-/

namespace RuleCalendar.Text

/-! ### Folding -/

/-- The parts of a text are folded each by itself. -/
theorem fold_append (s t : List Char) : fold (s ++ t) = fold s ++ fold t := List.map_append

/-- Folding keeps a text if it keeps each character. -/
theorem fold_eq_self_iff {s : List Char} : fold s = s ↔ ∀ c ∈ s, foldChar c = c := by
  have hid : s.map foldChar = s.map id ↔ ∀ c ∈ s, foldChar c = c := List.map_inj_left
  rwa [List.map_id] at hid

/-- Blanks are blanks also when they are folded. -/
theorem isBlank_foldChar {c : Char} (h : isBlank c = true) : isBlank (foldChar c) = true := by
  rw [foldChar]
  split
  · next hdash =>
    rcases hdash with rfl | rfl | rfl <;> cases h
  · split
    · rfl
    · split
      · next hquote =>
        rw [hquote] at h
        cases h
      · exact h

/-! ### Words -/

/-- A blank before a text changes none of its words. -/
theorem words_cons_of_blank {c : Char} (hc : isBlank c = true) (s : List Char) :
    words (c :: s) = words s := by
  cases s with
  | nil => simp [words, hc]
  | cons d rest => rw [words, if_pos hc]

/-- A character before a blank is a word. -/
theorem words_cons_cons_of_blank {c d : Char} (hc : isBlank c = false) (hd : isBlank d = true)
    (s : List Char) : words (c :: d :: s) = [c] :: words (d :: s) := by
  rw [words, if_neg (by simp [hc]), if_pos hd]

/-- A character that is not blank begins the first word. -/
theorem words_cons_ne_nil {c : Char} (hc : isBlank c = false) (s : List Char) :
    words (c :: s) ≠ [] := by
  cases s with
  | nil => simp [words, hc]
  | cons d rest =>
    rw [words, if_neg (by simp [hc])]
    split
    · exact List.cons_ne_nil _ _
    · split <;> exact List.cons_ne_nil _ _

/-- A character before another that is no blank begins the word of that one. -/
theorem words_cons_cons {c d : Char} (hc : isBlank c = false) (hd : isBlank d = false)
    (s : List Char) :
    ∃ w ws, words (d :: s) = w :: ws ∧ words (c :: d :: s) = (c :: w) :: ws := by
  cases hw : words (d :: s) with
  | nil => exact absurd hw (words_cons_ne_nil hd s)
  | cons w ws =>
    refine ⟨w, ws, rfl, ?_⟩
    rw [words, if_neg (by simp [hc]), if_neg (by simp [hd]), hw]

/-- The words of a text part at every blank. -/
theorem words_append_of_blank {c : Char} (hc : isBlank c = true) (s rest : List Char) :
    words (s ++ c :: rest) = words s ++ words rest := by
  induction s with
  | nil => exact words_cons_of_blank hc rest
  | cons a s ih =>
    by_cases ha : isBlank a = true
    · rw [List.cons_append, words_cons_of_blank ha, words_cons_of_blank ha, ih]
    have ha : isBlank a = false := Bool.eq_false_iff.mpr ha
    cases s with
    | nil =>
      rw [List.singleton_append, words_cons_cons_of_blank ha hc, words_cons_of_blank hc]
      simp [words, ha]
    | cons b s =>
      by_cases hb : isBlank b = true
      · rw [List.cons_append, List.cons_append, words_cons_cons_of_blank ha hb,
          words_cons_cons_of_blank ha hb, ← List.cons_append, ih]
        rfl
      · have hb : isBlank b = false := Bool.eq_false_iff.mpr hb
        obtain ⟨w, ws, hw, haw⟩ := words_cons_cons ha hb s
        obtain ⟨v, vs, hv, hav⟩ := words_cons_cons ha hb (s ++ c :: rest)
        rw [← List.cons_append, ih, hw] at hv
        cases hv
        rw [haw]
        exact hav

section

variable {b : List Char}

/-- Blanks before a text change none of its words. -/
theorem words_blanks_append (hb : ∀ c ∈ b, isBlank c = true) (s : List Char) :
    words (b ++ s) = words s := by
  induction b with
  | nil => rfl
  | cons c b ih =>
    obtain ⟨hc, hb⟩ := List.forall_mem_cons.mp hb
    rw [List.cons_append, words_cons_of_blank hc, ih hb]

/-- How many blanks part two texts does not matter to their words. -/
theorem words_append_blanks_append (hne : b ≠ []) (hb : ∀ c ∈ b, isBlank c = true)
    (s t : List Char) : words (s ++ b ++ t) = words s ++ words t := by
  obtain ⟨c, b, rfl⟩ := List.exists_cons_of_ne_nil hne
  obtain ⟨hc, hb⟩ := List.forall_mem_cons.mp hb
  rw [List.append_assoc, List.cons_append, words_append_of_blank hc, words_blanks_append hb]

/-- Blanks after a text change none of its words. -/
theorem words_append_blanks (hb : ∀ c ∈ b, isBlank c = true) (s : List Char) :
    words (s ++ b) = words s := by
  by_cases hne : b = []
  · rw [hne, List.append_nil]
  · have h := words_append_blanks_append hne hb s []
    rwa [List.append_nil, words, List.append_nil] at h

end

/-- Leaving out the blanks at the end of a text keeps its words. -/
theorem words_stripEnd (s : List Char) : words (stripEnd s) = words s := by
  obtain ⟨b, hb, hs⟩ := exists_stripEnd s
  rw [← words_append_blanks (List.all_eq_true.mp hb), hs]

/-- Texts that are joined with spaces keep their words. -/
theorem words_intercalate_space (ls : List (List Char)) :
    words ([' '].intercalate ls) = ls.flatMap words := by
  induction ls with
  | nil => rfl
  | cons l ls ih =>
    cases ls with
    | nil => simp
    | cons m ls =>
      rw [List.intercalate_cons_cons, List.append_assoc, List.singleton_append,
        words_append_of_blank (by decide), ih]
      rfl

/-! ### Collapsing -/

private theorem collapse_cons_of_blank {c : Char} (hc : isBlank c = true) (s : List Char) :
    collapse (c :: s) = collapse s := by
  rw [collapse, words_cons_of_blank hc, collapse]

private theorem collapse_singleton {c : Char} (hc : isBlank c = false) : collapse [c] = [c] := by
  simp [collapse, words, hc]

private theorem collapse_cons_cons {c d : Char} (hc : isBlank c = false) (hd : isBlank d = false)
    (s : List Char) : collapse (c :: d :: s) = c :: collapse (d :: s) := by
  obtain ⟨w, ws, hw, hcw⟩ := words_cons_cons hc hd s
  rw [collapse, collapse, hcw, hw]
  cases ws <;> simp [List.intercalate]

private theorem collapse_cons_cons_of_blank {c d : Char} (hc : isBlank c = false) (hd : isBlank d = true)
    (s : List Char) :
    collapse (c :: d :: s) =
      if words (d :: s) = [] then [c] else c :: ' ' :: collapse (d :: s) := by
  rw [collapse, collapse, words_cons_cons_of_blank hc hd]
  cases words (d :: s) <;> simp [List.intercalate]

/-- A text that begins with a character that is not blank keeps it. -/
theorem collapse_cons {c : Char} (hc : isBlank c = false) (s : List Char) :
    ∃ rest, collapse (c :: s) = c :: rest := by
  cases s with
  | nil => exact ⟨[], collapse_singleton hc⟩
  | cons d s =>
    by_cases hd : isBlank d = true
    · rw [collapse_cons_cons_of_blank hc hd]
      split
      · exact ⟨[], rfl⟩
      · exact ⟨_, rfl⟩
    · exact ⟨_, collapse_cons_cons hc (Bool.eq_false_iff.mpr hd) s⟩

/-- Of the blanks between two texts, one space is kept if the first text has words. -/
def Joins (s rest : List Char) : Prop :=
  ∃ gap, (gap = [] ∨ words s ≠ [] ∧ gap = [' ']) ∧
    collapse (s ++ rest) = collapse s ++ gap ++ collapse rest

private theorem joins_cons_of_blank {a : Char} (ha : isBlank a = true) {s rest : List Char}
    (h : Joins s rest) : Joins (a :: s) rest := by
  obtain ⟨gap, hgap, hjoin⟩ := h
  refine ⟨gap, ?_, ?_⟩
  · rwa [words_cons_of_blank ha]
  · rw [List.cons_append, collapse_cons_of_blank ha, collapse_cons_of_blank ha, hjoin]

private theorem joins_cons_cons {a b : Char} (ha : isBlank a = false) (hb : isBlank b = false)
    {s rest : List Char} (h : Joins (b :: s) rest) : Joins (a :: b :: s) rest := by
  obtain ⟨gap, hgap, hjoin⟩ := h
  refine ⟨gap, ?_, ?_⟩
  · exact hgap.imp_right fun h ↦ ⟨words_cons_ne_nil ha _, h.2⟩
  · rw [List.cons_append, List.cons_append, collapse_cons_cons ha hb, collapse_cons_cons ha hb]
    exact congrArg (a :: ·) hjoin

-- The blank after `a` becomes a space in front of the words that are left.
private theorem joins_cons_cons_of_blank {a b c : Char} (ha : isBlank a = false)
    (hb : isBlank b = true) (hc : isBlank c = false) {s rest : List Char}
    (h : Joins (b :: s) (c :: rest)) : Joins (a :: b :: s) (c :: rest) := by
  obtain ⟨gap, hgap, hjoin⟩ := h
  have hne : words (b :: s ++ c :: rest) ≠ [] := by
    obtain ⟨tail, htail⟩ := collapse_cons hc rest
    intro hnil
    rw [collapse, hnil, htail] at hjoin
    simp at hjoin
  have hlong : collapse (a :: b :: s ++ c :: rest) =
      a :: ' ' :: collapse (b :: s ++ c :: rest) := by
    rw [List.cons_append, List.cons_append, collapse_cons_cons_of_blank ha hb]
    exact if_neg hne
  rw [Joins, hlong, hjoin, collapse_cons_cons_of_blank ha hb]
  by_cases hs : words (b :: s) = []
  · obtain rfl : gap = [] := hgap.resolve_right fun h ↦ h.1 hs
    have hcollapse : collapse (b :: s) = [] := by
      rw [collapse, hs]
      rfl
    rw [if_pos hs, hcollapse]
    exact ⟨[' '], .inr ⟨words_cons_ne_nil ha _, rfl⟩, rfl⟩
  · rw [if_neg hs]
    exact ⟨gap, hgap.imp_right fun h ↦ ⟨words_cons_ne_nil ha _, h.2⟩, rfl⟩

/-- The only blanks at the end of a text that are kept stand between two words, as one space. -/
theorem collapse_append {c : Char} (hc : isBlank c = false) (s rest : List Char) :
    Joins s (c :: rest) := by
  induction s with
  | nil => exact ⟨[], .inl rfl, rfl⟩
  | cons a s ih =>
    by_cases ha : isBlank a = true
    · exact joins_cons_of_blank ha ih
    · have ha : isBlank a = false := Bool.eq_false_iff.mpr ha
      cases s with
      | nil =>
        refine ⟨[], .inl rfl, ?_⟩
        rw [collapse_singleton ha]
        exact collapse_cons_cons ha hc rest
      | cons b s =>
        by_cases hb : isBlank b = true
        · exact joins_cons_cons_of_blank ha hb hc ih
        · exact joins_cons_cons ha (Bool.eq_false_iff.mpr hb) ih

/-! ### Lower case -/

/-- Whether a character ends the search for the nearest letter with case, being none itself. -/
def isCaseless (c : Char) : Bool :=
  !inRanges caseIgnorableRanges c.toNat && !inRanges casedRanges c.toNat

private theorem startsCased_append {c : Char} (hc : isCaseless c = true) (s rest : List Char) :
    startsCased (s ++ c :: rest) = startsCased s := by
  simp only [isCaseless, Bool.and_eq_true, Bool.not_eq_true'] at hc
  induction s with
  | nil => simp [startsCased, hc.1, hc.2]
  | cons d s ih =>
    by_cases hd : inRanges caseIgnorableRanges d.toNat = true
    · simpa [startsCased, hd] using ih
    · simp [startsCased, hd]

/-- Letters do not look past a caseless character behind them. -/
theorem lowerAfter_append_behind {c : Char} (hc : isCaseless c = true)
    (before further s : List Char) :
    lowerAfter (before ++ c :: further) s = lowerAfter before s := by
  induction s generalizing before with
  | nil => rfl
  | cons d s ih =>
    rw [lowerAfter, lowerAfter, startsCased_append hc, ← List.cons_append, ih]

private theorem ne_sigma_of_isCaseless {c : Char} (hc : isCaseless c = true) : c ≠ 'Σ' := by
  have hsigma : isCaseless 'Σ' = false := by decide +kernel
  intro h
  rw [h, hsigma] at hc
  cases hc

private theorem lowerAfter_cons {c : Char} (hc : isCaseless c = true)
    (before rest : List Char) :
    lowerAfter before (c :: rest) = lowerChar c ++ lowerAfter [] rest := by
  have hlook : lowerAfter (c :: before) rest = lowerAfter [] rest :=
    lowerAfter_append_behind hc [] before rest
  rw [lowerAfter, if_neg (ne_sigma_of_isCaseless hc), hlook]

/-- A caseless character parts a text into two that get their lower case by themselves. -/
theorem lowerAfter_append {c : Char} (hc : isCaseless c = true) (before s rest : List Char) :
    lowerAfter before (s ++ c :: rest) = lowerAfter before s ++ lower (c :: rest) := by
  induction s generalizing before with
  | nil =>
    rw [List.nil_append, lowerAfter_cons hc, lower, lowerAfter_cons hc]
    rfl
  | cons d s ih =>
    rw [List.cons_append, lowerAfter, lowerAfter, startsCased_append hc, ih, List.append_assoc]

/-- A character without case parts a text into two that are put into lower case separately. -/
theorem lower_append {c : Char} (hc : isCaseless c = true) (s rest : List Char) :
    lower (s ++ c :: rest) = lower s ++ lower (c :: rest) :=
  lowerAfter_append hc [] s rest

/-- A character without case is put into lower case by itself. -/
theorem lower_cons {c : Char} (hc : isCaseless c = true) (rest : List Char) :
    lower (c :: rest) = lowerChar c ++ lower rest :=
  lowerAfter_cons hc [] rest

/-! ### The normal form -/

/-- The normal form of a text that goes on with a comma. -/
theorem normalForm_append_comma (s rest : List Char) :
    ∃ gap, (gap = [] ∨ gap = [' ']) ∧
      normalForm (s ++ ',' :: rest) = normalForm s ++ gap ++ normalForm (',' :: rest) := by
  have hcomma : isBlank ',' = false := by decide
  have hcase : isCaseless ',' = true := by decide +kernel
  have hfold : fold (s ++ ',' :: rest) = fold s ++ ',' :: fold rest := fold_append s (',' :: rest)
  obtain ⟨gap, hgap, happend⟩ := collapse_append hcomma (fold s) (fold rest)
  obtain ⟨tail, htail⟩ := collapse_cons hcomma (fold rest)
  have hrest : normalForm (',' :: rest) = lower (',' :: tail) := congrArg lower htail
  refine ⟨gap, hgap.imp_right And.right, ?_⟩
  rw [normalForm, hfold, happend, htail, hrest, normalForm]
  cases hgap with
  | inl hnil =>
    rw [hnil, List.append_nil, List.append_nil]
    exact lower_append hcase _ tail
  | inr hspace =>
    rw [hspace.2, List.append_assoc, List.append_assoc, List.singleton_append,
      lower_append (by decide +kernel)]
    exact congrArg _ (lower_append hcase [' '] tail)

end RuleCalendar.Text
