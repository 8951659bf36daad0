import RuleCalendar.Proofs.Text.Lines
import RuleCalendar.Proofs.Text.NormalForm

/-!
# The normal form of ASCII text

Main statement: an ASCII text with one space between its words has as its normal form the text in
lower case, letter by letter.
-/

namespace RuleCalendar.Text

/-- Whether a text is all ASCII. -/
def IsAscii (s : List Char) : Prop := ∀ c ∈ s, c.toNat < 128

instance (s : List Char) : Decidable (IsAscii s) :=
  decidable_of_iff (s.all (·.toNat < 128) = true) (by simp [IsAscii])

variable {s t : List Char}

/-- A text made of two parts is ASCII if both are. -/
theorem isAscii_append : IsAscii (s ++ t) ↔ IsAscii s ∧ IsAscii t := List.forall_mem_append

/-- A text is ASCII if its first character and the rest are. -/
theorem isAscii_cons {c : Char} : IsAscii (c :: s) ↔ c.toNat < 128 ∧ IsAscii s :=
  List.forall_mem_cons

/-! ### Characters -/

/-- What holds of the characters with the numbers below 128 holds of every ASCII character. -/
theorem ascii_cases {p : Char → Prop} (h : ∀ n < 128, p (Char.ofNat n)) {c : Char}
    (hc : c.toNat < 128) : p c := by
  rw [← Char.ofNat_toNat c]
  exact h _ hc

private theorem isBlank_toLower {c : Char} (hc : c.toNat < 128) : isBlank c.toLower = isBlank c :=
  ascii_cases (p := fun c ↦ isBlank c.toLower = isBlank c) (by decide) hc

/-- Only ASCII letters have an ASCII letter as their simple lower case. -/
theorem ascii_of_toLower {c : Char} (hc : c.toLower.toNat < 128) : c.toNat < 128 := by
  by_contra hlarge
  have hself : c.toLower = c := by
    refine dif_neg ?_
    rintro ⟨-, hle⟩
    have hle' : c.toNat ≤ 90 := hle
    omega
  rw [hself] at hc
  exact hlarge hc

private theorem foldChar_of_ascii {c : Char} (hc : c.toNat < 128) : foldChar c = c := by
  have hne (d : Char) (hd : 128 ≤ d.toNat) : c ≠ d := by
    rintro rfl
    omega
  rw [foldChar, if_neg, if_neg (hne _ (by decide)), if_neg (hne _ (by decide))]
  simp [hne '\u2011' (by decide), hne '\u2013' (by decide), hne '\u2014' (by decide)]

/-- Folding leaves ASCII text as it is. -/
theorem fold_of_ascii (hs : IsAscii s) : fold s = s := by
  rw [fold, List.map_congr_left fun c hc ↦ foldChar_of_ascii (hs c hc), List.map_id']

/-- The lower case of ASCII text, letter by letter. -/
theorem lower_of_ascii (hs : IsAscii s) : lower s = s.map Char.toLower := by
  have hafter (before : List Char) : lowerAfter before s = s.map Char.toLower := by
    induction s generalizing before with
    | nil => rfl
    | cons c s ih =>
      have hc := hs c List.mem_cons_self
      have hsigma : c ≠ 'Σ' := by
        rintro rfl
        exact absurd hc (by decide)
      rw [lowerAfter, if_neg hsigma, lowerChar, if_pos hc,
        ih fun d hd ↦ hs d (List.mem_cons_of_mem c hd)]
      rfl
  exact hafter []

/-! ### Words -/

/-- Whether a text is a word: it is not empty and holds no blank. -/
def IsOneWord (w : List Char) : Prop := w ≠ [] ∧ ∀ c ∈ w, isBlank c = false

instance (w : List Char) : Decidable (IsOneWord w) :=
  decidable_of_iff (w ≠ [] ∧ w.all (!isBlank ·) = true) (by simp [IsOneWord])

/-- Two words with nothing between them are one. -/
theorem IsOneWord.append (hs : IsOneWord s) (ht : IsOneWord t) : IsOneWord (s ++ t) :=
  ⟨List.append_ne_nil_of_left_ne_nil hs.1 t, List.forall_mem_append.mpr ⟨hs.2, ht.2⟩⟩

/-- Whether a text is made of words one space apart. -/
inductive Spaced : List Char → Prop
  | word {w : List Char} : IsOneWord w → Spaced w
  | space {w rest : List Char} : IsOneWord w → Spaced rest → Spaced (w ++ ' ' :: rest)

/-- A word is the only word of itself. -/
theorem words_of_isOneWord {w : List Char} (hw : IsOneWord w) : words w = [w] := by
  obtain ⟨hne, hw⟩ := hw
  induction w with
  | nil => exact absurd rfl hne
  | cons c w ih =>
    have hc := hw c List.mem_cons_self
    cases w with
    | nil => simp [words, hc]
    | cons d w =>
      have hd := hw d (List.mem_cons_of_mem c List.mem_cons_self)
      obtain ⟨v, ws, hv, hcv⟩ := words_cons_cons hc hd w
      rw [ih (List.cons_ne_nil d w) fun e he ↦ hw e (List.mem_cons_of_mem c he)] at hv
      cases hv
      exact hcv

/-- A word ends at a space. -/
theorem words_append_space {w : List Char} (hw : IsOneWord w) (rest : List Char) :
    words (w ++ ' ' :: rest) = w :: words rest := by
  rw [words_append_of_blank (by decide), words_of_isOneWord hw]
  rfl

namespace Spaced

/-- Words one space apart begin with a character that is no blank. -/
theorem exists_cons (h : Spaced s) : ∃ c rest, s = c :: rest ∧ isBlank c = false := by
  have hword {w : List Char} (hw : IsOneWord w) : ∃ c rest, w = c :: rest ∧ isBlank c = false := by
    obtain ⟨c, rest, rfl⟩ := List.exists_cons_of_ne_nil hw.1
    exact ⟨c, rest, rfl, hw.2 c List.mem_cons_self⟩
  cases h with
  | word hw => exact hword hw
  | space hw _ =>
    obtain ⟨c, rest, rfl, hc⟩ := hword hw
    exact ⟨c, _, List.cons_append, hc⟩

private theorem exists_concat (h : Spaced s) : ∃ init c, s = init ++ [c] ∧ isBlank c = false := by
  induction h with
  | word hw =>
    obtain ⟨init, c, rfl⟩ := (List.eq_nil_or_concat' _).resolve_left hw.1
    exact ⟨init, c, rfl, hw.2 c (by simp)⟩
  | @space w rest _ _ ih =>
    obtain ⟨init, c, rfl, hc⟩ := ih
    exact ⟨w ++ ' ' :: init, c, by simp, hc⟩

/-- Collapsing keeps words that are one space apart. -/
theorem collapse_eq (h : Spaced s) : collapse s = s := by
  induction h with
  | word hw => rw [collapse, words_of_isOneWord hw, List.intercalate_singleton]
  | @space w rest hw hrest ih =>
    obtain ⟨c, tail, rfl, hc⟩ := hrest.exists_cons
    obtain ⟨v, ws, hv⟩ := List.exists_cons_of_ne_nil (words_cons_ne_nil hc tail)
    rw [collapse, hv] at ih
    rw [collapse, words_append_space hw, hv, List.intercalate_cons_cons, ih, List.append_assoc,
      List.singleton_append]

/-- Only spaces are blanks among words. -/
theorem eq_space_of_isBlank (h : Spaced s) {c : Char} (hc : c ∈ s) (hblank : isBlank c = true) :
    c = ' ' := by
  induction h with
  | word hw =>
    rw [hw.2 c hc] at hblank
    cases hblank
  | space hw _ ih =>
    obtain hword | hrest := List.mem_append.mp hc
    · rw [hw.2 c hword] at hblank
      cases hblank
    · obtain rfl | hrest := List.mem_cons.mp hrest
      · rfl
      · exact ih hrest

/-- No line ends in words one space apart. -/
theorem unbroken (h : Spaced s) : Unbroken s := by
  intro c hc
  cases hend : isLineEnd c with
  | false => rfl
  | true =>
    rw [h.eq_space_of_isBlank hc (isBlank_of_isLineEnd hend)] at hend
    exact absurd hend (by decide)

/-- Words one space apart have no blanks around them. -/
theorem strip_eq (h : Spaced s) : strip s = s := by
  obtain ⟨c, rest, hs, hc⟩ := h.exists_cons
  obtain ⟨init, d, hs', hd⟩ := h.exists_concat
  have hstart : stripStart s = s := by
    rw [hs, stripStart, List.dropWhile_cons_of_neg (by simp [hc])]
  rw [strip, hstart, hs', stripEnd, List.reverse_append, List.reverse_singleton,
    List.singleton_append, List.dropWhile_cons_of_neg (by simp [hd]), List.reverse_cons,
    List.reverse_reverse]

/-- What keeps spaces and other blanks apart from the rest keeps words one space apart. -/
theorem of_map {f : Char → Char} (hblank : ∀ c ∈ t, isBlank (f c) = isBlank c)
    (hspace : ∀ c ∈ t, f c = ' ' → c = ' ') (h : Spaced (t.map f)) : Spaced t := by
  have hword {w : List Char} (hw : ∀ c ∈ w, isBlank (f c) = isBlank c)
      (hone : IsOneWord (w.map f)) : IsOneWord w := by
    refine ⟨fun hnil ↦ hone.1 (by rw [hnil, List.map_nil]), fun c hc ↦ ?_⟩
    rw [← hw c hc]
    exact hone.2 (f c) (List.mem_map_of_mem hc)
  generalize hs : t.map f = s at h
  induction h generalizing t with
  | word hw => exact .word (hword hblank (hs ▸ hw))
  | space hw _ ih =>
    obtain ⟨w, tail, rfl, rfl, htail⟩ := List.map_eq_append_iff.mp hs
    obtain ⟨c, rest, rfl, hc, rfl⟩ := List.map_eq_cons_iff.mp htail
    rw [List.forall_mem_append, List.forall_mem_cons] at hblank hspace
    rw [hspace.2.1 hc]
    exact .space (hword hblank.1 hw) (ih hblank.2.2 hspace.2.2 rfl)

end Spaced

/-! ### The normal form -/

/-- A text whose letters have the lower case of words one space apart, in ASCII, is itself made of
such words. -/
theorem ascii_and_spaced_of_toLower (hs : IsAscii s) (hspaced : Spaced s)
    (h : t.map Char.toLower = s) : IsAscii t ∧ Spaced t := by
  have hascii : IsAscii t := by
    intro c hc
    exact ascii_of_toLower (hs _ (h ▸ List.mem_map_of_mem hc))
  refine ⟨hascii, .of_map (f := Char.toLower) ?_ ?_ (h ▸ hspaced)⟩
  · intro c hc
    exact isBlank_toLower (hascii c hc)
  · intro c hc
    exact ascii_cases (p := fun c ↦ c.toLower = ' ' → c = ' ') (by decide) (hascii c hc)

/-- The normal form of such a text is its lower case, letter by letter. -/
theorem normalForm_of_ascii (hs : IsAscii s) (hspaced : Spaced s) :
    normalForm s = s.map Char.toLower := by
  rw [normalForm, fold_of_ascii hs, hspaced.collapse_eq, lower_of_ascii hs]

end RuleCalendar.Text
