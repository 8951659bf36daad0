import Mathlib.Logic.Relation
import RuleCalendar.Proofs.Text.Normal
import RuleCalendar.Rule.Table

/-!
# Rule texts that are spelled in another way

Upper and lower case, blanks, dashes, no-break spaces and apostrophes are matters of spelling. Main
statement: texts that differ in these have the same normal form and so give the same rule, and a
normal form is its own normal form.
-/

namespace RuleCalendar

namespace Text

variable {s t : List Char}

/-! ### Letters -/

/-- What does not tell the small ASCII letters from their capitals tells no character from its simple
lower case. -/
theorem apply_toLower {α : Type} {f : Char → α}
    (h : ∀ n < 26, f (Char.ofNat (n + 97)) = f (Char.ofNat (n + 65))) (c : Char) :
    f c.toLower = f c := by
  by_cases hc : 65 ≤ c.toNat ∧ c.toNat ≤ 90
  · have hletters : ∀ n < 26, (Char.ofNat (n + 65)).toLower = Char.ofNat (n + 97) := by
      decide
    have hself : Char.ofNat (c.toNat - 65 + 65) = c := by
      rw [Nat.sub_add_cancel hc.1, Char.ofNat_toNat]
    rw [← hself, hletters _ (by omega)]
    exact h _ (by omega)
  · rw [toLower_eq_self (by omega)]

/-- Whether a run lies outside a range of code points. -/
def avoidsRange (low high : Nat) (range : CodeRange) : Bool :=
  range.2.blt low || high.blt range.1

private theorem inRanges_eq_false {ranges : List CodeRange} {low high n : Nat}
    (h : ranges.all (avoidsRange low high) = true) (hn : low ≤ n ∧ n ≤ high) :
    inRanges ranges n = false := by
  rw [inRanges, List.any_eq_false]
  intro range hrange hin
  have havoids := List.all_eq_true.mp h range hrange
  simp only [avoidsRange, Bool.or_eq_true, Nat.blt_eq] at havoids
  simp only [Bool.and_eq_true, decide_eq_true_eq] at hin
  omega

private theorem foldChar_toLower (c : Char) : foldChar c.toLower = (foldChar c).toLower := by
  by_cases hc : c.toNat < 128
  · refine ascii_cases (p := fun c ↦ foldChar c.toLower = (foldChar c).toLower) ?_ hc
    decide +kernel
  · rw [toLower_eq_self (by omega), foldChar]
    repeat' split
    · rfl
    · rfl
    · rfl
    · rw [toLower_eq_self (by omega)]

private theorem fold_map_toLower (s : List Char) : fold (s.map Char.toLower) = (fold s).map Char.toLower := by
  simp [fold, foldChar_toLower]

private theorem startsCased_map_toLower (s : List Char) :
    startsCased (s.map Char.toLower) = startsCased s := by
  have hignorable (c : Char) :
      inRanges caseIgnorableRanges c.toLower.toNat = inRanges caseIgnorableRanges c.toNat := by
    refine apply_toLower (f := fun c ↦ inRanges caseIgnorableRanges c.toNat) ?_ c
    have hsmall : caseIgnorableRanges.all (avoidsRange 97 122) = true := by decide +kernel
    have hcapital : caseIgnorableRanges.all (avoidsRange 65 90) = true := by decide +kernel
    intro n hn
    have htoNat (m : Nat) (hm : m < 128) : (Char.ofNat m).toNat = m :=
      toNat_ofNat_of_isValidChar (.inl (by omega))
    rw [htoNat _ (by omega), htoNat _ (by omega), inRanges_eq_false hsmall (by omega),
      inRanges_eq_false hcapital (by omega)]
  have hcased (c : Char) : inRanges casedRanges c.toLower.toNat = inRanges casedRanges c.toNat :=
    apply_toLower (f := fun c ↦ inRanges casedRanges c.toNat) (by decide +kernel) c
  induction s with
  | nil => rfl
  | cons c s ih =>
    rw [List.map_cons]
    by_cases hc : inRanges caseIgnorableRanges c.toNat = true
    · simpa [startsCased, hignorable, hc] using ih
    · simp [startsCased, hignorable, hcased, hc]

private theorem lower_map_toLower (s : List Char) : lower (s.map Char.toLower) = lower s := by
  have hlower (c : Char) : lowerChar c.toLower = lowerChar c :=
    apply_toLower (f := lowerChar) (by decide +kernel) c
  have hsigma (c : Char) : (c.toLower = 'Σ') = (c = 'Σ') :=
    apply_toLower (f := (· = 'Σ')) (by decide +kernel) c
  -- The letter with two forms sees the same cases before and behind it.
  have hafter (before : List Char) :
      lowerAfter (before.map Char.toLower) (s.map Char.toLower) = lowerAfter before s := by
    induction s generalizing before with
    | nil => rfl
    | cons c s ih =>
      rw [List.map_cons, lowerAfter, lowerAfter, startsCased_map_toLower, startsCased_map_toLower,
        hlower, ← List.map_cons, ih (c :: before)]
      simp only [hsigma]
  exact hafter []

/-! ### Blanks -/

private theorem words_map {f : Char → Char} (hf : ∀ c, isBlank (f c) = isBlank c) (s : List Char) :
    words (s.map f) = (words s).map (·.map f) := by
  induction s with
  | nil => rfl
  | cons c s ih =>
    by_cases hc : isBlank c = true
    · rw [List.map_cons, words_cons_of_blank ((hf c).trans hc), words_cons_of_blank hc, ih]
    have hc : isBlank c = false := Bool.eq_false_iff.mpr hc
    have hfc : isBlank (f c) = false := (hf c).trans hc
    cases s with
    | nil => simp [words, hc, hfc]
    | cons d s =>
      rw [List.map_cons] at ih
      rw [List.map_cons, List.map_cons]
      by_cases hd : isBlank d = true
      · rw [words_cons_cons_of_blank hfc ((hf d).trans hd), words_cons_cons_of_blank hc hd, ih]
        rfl
      · have hd : isBlank d = false := Bool.eq_false_iff.mpr hd
        obtain ⟨w, ws, hw, hcw⟩ := words_cons_cons hc hd s
        obtain ⟨v, vs, hv, hcv⟩ := words_cons_cons hfc ((hf d).trans hd) (s.map f)
        rw [ih, hw] at hv
        cases hv
        rw [hcv, hcw]
        rfl

private theorem map_intercalate_space {f : Char → Char} (hf : f ' ' = ' ') (ws : List (List Char)) :
    ([' '].intercalate ws).map f = [' '].intercalate (ws.map (·.map f)) := by
  induction ws with
  | nil => rfl
  | cons w ws ih =>
    cases ws with
    | nil => simp
    | cons v ws =>
      rw [List.intercalate_cons_cons, List.map_append, List.map_append, ih]
      simp [hf, List.intercalate_cons_cons]

private theorem collapse_map_toLower (s : List Char) :
    collapse (s.map Char.toLower) = (collapse s).map Char.toLower := by
  have hblank (c : Char) : isBlank c.toLower = isBlank c :=
    apply_toLower (f := isBlank) (by decide) c
  rw [collapse, collapse, words_map hblank, map_intercalate_space (by decide)]

/-! ### Respelling -/

/-- ASCII characters and their typographic forms. -/
def typographicForms : List (Char × Char) :=
  [('-', '\u2011'), ('-', '\u2013'), ('-', '\u2014'), (' ', '\u00a0'), ('\'', '\u2019')]

/-- One change of spelling at one place of a text. -/
inductive Respelled : List Char → List Char → Prop
  /-- An ASCII letter gets the other case. -/
  | letter (l r : List Char) (c d : Char) : c.toLower = d.toLower →
      Respelled (l ++ c :: r) (l ++ d :: r)
  /-- Blanks take the place of blanks. -/
  | blanks (l r b b' : List Char) : b ≠ [] → b' ≠ [] → (∀ c ∈ b ++ b', isBlank c = true) →
      Respelled (l ++ b ++ r) (l ++ b' ++ r)
  /-- Blanks come in front of the text. -/
  | leading (b s : List Char) : (∀ c ∈ b, isBlank c = true) → Respelled s (b ++ s)
  /-- Blanks come behind the text. -/
  | trailing (b s : List Char) : (∀ c ∈ b, isBlank c = true) → Respelled s (s ++ b)
  /-- A typographic form takes the place of an ASCII character. -/
  | typographic (l r : List Char) (c d : Char) : (c, d) ∈ typographicForms →
      Respelled (l ++ c :: r) (l ++ d :: r)

private theorem normalForm_map_toLower (s : List Char) : normalForm (s.map Char.toLower) = normalForm s := by
  rw [normalForm, fold_map_toLower, collapse_map_toLower, lower_map_toLower, normalForm]

private theorem normalForm_congr (h : words (fold s) = words (fold t)) : normalForm s = normalForm t := by
  rw [normalForm, normalForm, collapse, collapse, h]

private theorem Respelled.normalForm_eq (h : Respelled s t) : normalForm s = normalForm t := by
  have hfold {b : List Char} (hb : ∀ c ∈ b, isBlank c = true) : ∀ c ∈ fold b, isBlank c = true := by
    intro c hc
    obtain ⟨d, hd, rfl⟩ := List.mem_map.mp hc
    exact isBlank_foldChar (hb d hd)
  have hne {b : List Char} (hb : b ≠ []) : fold b ≠ [] := by
    simpa [fold] using hb
  cases h with
  | letter l r c d hcase =>
    rw [← normalForm_map_toLower (l ++ c :: r), ← normalForm_map_toLower (l ++ d :: r),
      List.map_append, List.map_append, List.map_cons, List.map_cons, hcase]
  | blanks l r b b' hb hb' hblank =>
    obtain ⟨hblank, hblank'⟩ := List.forall_mem_append.mp hblank
    apply normalForm_congr
    rw [fold_append, fold_append, fold_append, fold_append,
      words_append_blanks_append (hne hb) (hfold hblank),
      words_append_blanks_append (hne hb') (hfold hblank')]
  | leading b s hblank =>
    apply normalForm_congr
    rw [fold_append, words_blanks_append (hfold hblank)]
  | trailing b s hblank =>
    apply normalForm_congr
    rw [fold_append, words_append_blanks (hfold hblank)]
  | typographic l r c d hform =>
    have hforms : ∀ form ∈ typographicForms, foldChar form.1 = foldChar form.2 := by
      decide
    have hcd : foldChar c = foldChar d := hforms (c, d) hform
    apply normalForm_congr
    rw [fold_append, fold_append, fold, fold, fold, List.map_cons, List.map_cons, hcd]

/-- Texts that come from one another by changes of spelling, there or back, have one normal form. -/
theorem normalForm_eq_of_respelled (h : Relation.EqvGen Respelled s t) :
    normalForm s = normalForm t := by
  induction h with
  | rel _ _ hstep => exact hstep.normalForm_eq
  | refl _ => rfl
  | symm _ _ _ ih => exact ih.symm
  | trans _ _ _ _ _ ih ih' => exact ih.trans ih'

end Text

/-- A change of spelling changes no rule, and normal forms stay as they are. -/
theorem Rule.ofText_respelled (t u : List Char) :
    Text.normalForm (Text.normalForm t) = Text.normalForm t ∧
      (Relation.EqvGen Text.Respelled t u → Rule.ofText u = Rule.ofText t) := by
  refine ⟨Text.normalForm_normalForm t, fun h ↦ ?_⟩
  rw [ofText, ofText, Text.normalForm_eq_of_respelled h]

/-- A text with each kind of change made once. -/
theorem Rule.ofText_respelled_once :
    let t := "the 15TH-day".toList
    let u := " the\t 15tH\u2013day\n".toList
    Relation.EqvGen Text.Respelled t u ∧
      Text.normalForm (Text.normalForm t) = Text.normalForm t ∧ Rule.ofText u = Rule.ofText t := by
  intro t u
  have hletter : Text.Respelled t "the 15tH-day".toList :=
    .letter "the 15".toList "H-day".toList 'T' 't' rfl
  have hblanks : Text.Respelled "the 15tH-day".toList "the\t 15tH-day".toList :=
    .blanks "the".toList "15tH-day".toList [' '] ['\t', ' '] (by decide) (by decide)
      (List.all_eq_true.mp rfl)
  have hdash : Text.Respelled "the\t 15tH-day".toList "the\t 15tH\u2013day".toList :=
    .typographic "the\t 15tH".toList "day".toList '-' '\u2013' (by decide)
  have hleading : Text.Respelled "the\t 15tH\u2013day".toList " the\t 15tH\u2013day".toList :=
    .leading [' '] "the\t 15tH\u2013day".toList (List.all_eq_true.mp rfl)
  have htrailing : Text.Respelled " the\t 15tH\u2013day".toList u :=
    .trailing ['\n'] " the\t 15tH\u2013day".toList (List.all_eq_true.mp rfl)
  have hchain : Relation.EqvGen Text.Respelled t u :=
    .trans _ _ _ (.rel _ _ hletter) (.trans _ _ _ (.rel _ _ hblanks) (.trans _ _ _
      (.rel _ _ hdash) (.trans _ _ _ (.rel _ _ hleading) (.rel _ _ htrailing))))
  obtain ⟨hnormal, hrule⟩ := ofText_respelled t u
  exact ⟨hchain, hnormal, hrule hchain⟩

end RuleCalendar
