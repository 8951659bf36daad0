import RuleCalendar.Proofs.Text.Ascii

/-!
# Texts in normal form

A normal form is made of words one space apart, and its characters are settled: neither folding nor
the lower case changes them. Main statements: every normal form is such a text, and every such text is
its own normal form, so that a second time changes nothing; and two normal forms with a space between
them are one again.
-/

namespace RuleCalendar.Text

variable {s t : List Char} {c d : Char}

/-! ### The table of lower-case letters -/

/-- The blanks beyond ASCII, the typographic characters, the two letters with a rule of their own, and
the surrogates. -/
def unsettledRanges : List CodeRange :=
  [(0x85, 0x85), (0xA0, 0xA0), (0x130, 0x130), (0x3A3, 0x3A3), (0x1680, 0x1680), (0x2000, 0x206F),
    (0x3000, 0x3000), (0xD800, 0xDFFF)]

namespace CaseRun

variable {r q : CaseRun} {point n : Nat}

/-- The lower-case letter of the first letter of a run. -/
def lowest (r : CaseRun) : Nat := (r.first + r.shift).toNat

/-- The lower-case letter of the last letter of a run. -/
def highest (r : CaseRun) : Nat := (r.last + r.shift).toNat

/-- Whether the lower-case letters of a run lie outside a range. -/
def avoids (r : CaseRun) (range : CodeRange) : Bool :=
  r.highest.blt range.1 || range.2.blt r.lowest

/-- Whether no lower-case letter of a run is in another run, which may leave out every second letter
of its range. -/
def misses (r q : CaseRun) : Bool :=
  r.avoids (q.first, q.last) ||
    q.stride == 2 && (r.stride == 2 || r.first == r.last) && (r.lowest + q.first) % 2 == 1

/-- A letter is as far from the first one of its run as the stride says. -/
theorem lower?_eq_some_iff : r.lower? point = some n ↔
    (r.first ≤ point ∧ point ≤ r.last ∧ (point - r.first) % r.stride = 0) ∧
      (point + r.shift).toNat = n := by
  rw [lower?]
  split <;> simp [*]

private theorem outside_of_avoids {range : CodeRange} (h : r.avoids range = true)
    (hlower : r.lower? point = some n) : n < range.1 ∨ range.2 < n := by
  obtain ⟨⟨hfirst, hlast, -⟩, hn⟩ := lower?_eq_some_iff.mp hlower
  rw [avoids, Bool.or_eq_true, Nat.blt_eq, Nat.blt_eq, lowest, highest] at h
  omega

private theorem lower?_eq_none_of_misses (h : r.misses q = true) (hpos : 0 < r.lowest)
    (hlower : r.lower? point = some n) : q.lower? n = none := by
  rw [Option.eq_none_iff_forall_ne_some]
  intro m hm
  obtain ⟨⟨hfirst, hlast, hstride⟩, -⟩ := lower?_eq_some_iff.mp hm
  rw [misses, Bool.or_eq_true] at h
  cases h with
  | inl havoids =>
    have houtside := outside_of_avoids havoids hlower
    omega
  | inr hodd =>
    -- The letters of both runs are two apart, and they begin at an odd distance.
    simp only [Bool.and_eq_true, Bool.or_eq_true, beq_iff_eq] at hodd
    obtain ⟨⟨htwo, hsparse⟩, hodd⟩ := hodd
    obtain ⟨hpoint, hn⟩ := lower?_eq_some_iff.mp hlower
    have heven : (point - r.first) % 2 = 0 := by
      cases hsparse with
      | inl hstride => exact hstride ▸ hpoint.2.2
      | inr hsingle => omega
    rw [lowest] at hpos hodd
    rw [htwo] at hstride
    omega

end CaseRun

/-- A code point that the table gives as a lower-case letter: it is in no run itself. -/
structure IsLowered (n : Nat) : Prop where
  bounds : 0x61 ≤ n ∧ n < 0x20000
  outside : ∀ range ∈ unsettledRanges, n < range.1 ∨ range.2 < n
  unlisted : caseRuns.findSome? (·.lower? n) = none

private theorem isLowered_of_findSome? {point n : Nat}
    (h : caseRuns.findSome? (·.lower? point) = some n) : IsLowered n := by
  have htable : (caseRuns.all fun r ↦ (Nat.ble 0x61 r.lowest && r.highest.blt 0x20000) &&
      (unsettledRanges.all r.avoids && caseRuns.all r.misses)) = true := by
    decide +kernel
  obtain ⟨r, hr, hlower⟩ := List.exists_of_findSome?_eq_some h
  obtain ⟨hpoint, hn⟩ := CaseRun.lower?_eq_some_iff.mp hlower
  have hsettled := List.all_eq_true.mp htable r hr
  simp only [Bool.and_eq_true, Nat.ble_eq, Nat.blt_eq, List.all_eq_true] at hsettled
  obtain ⟨hbounds, havoids, hmisses⟩ := hsettled
  have hrange : r.lowest ≤ n ∧ n ≤ r.highest := by
    rw [CaseRun.lowest, CaseRun.highest]
    omega
  refine ⟨by omega, ?_, ?_⟩
  · intro range hrange
    exact CaseRun.outside_of_avoids (havoids range hrange) hlower
  · rw [List.findSome?_eq_none_iff]
    intro q hq
    exact CaseRun.lower?_eq_none_of_misses (hmisses q hq) (by omega) hlower

/-! ### Settled characters -/

/-- A character that neither folding nor the lower case changes. -/
structure IsSettled (c : Char) : Prop where
  fold : foldChar c = c
  lower : lowerChar c = [c]
  ne_sigma : c ≠ 'Σ'

instance (c : Char) : Decidable (IsSettled c) :=
  decidable_of_iff (foldChar c = c ∧ lowerChar c = [c] ∧ c ≠ 'Σ')
    ⟨fun ⟨h₁, h₂, h₃⟩ ↦ ⟨h₁, h₂, h₃⟩, fun ⟨h₁, h₂, h₃⟩ ↦ ⟨h₁, h₂, h₃⟩⟩

/-- Only the capital letters of ASCII have another simple lower case. -/
theorem toLower_eq_self (h : c.toNat < 65 ∨ 90 < c.toNat) : c.toLower = c := by
  refine dif_neg ?_
  rintro ⟨hge, hle⟩
  have hge : 65 ≤ c.toNat := hge
  have hle : c.toNat ≤ 90 := hle
  omega

/-- The character of a valid code has this code. -/
theorem toNat_ofNat_of_isValidChar {n : Nat} (h : n.isValidChar) : (Char.ofNat n).toNat = n := by
  rw [Char.ofNat, dif_pos h]
  rfl

/-- The lower-case letters of the table are settled, and none of them is a blank. -/
theorem IsLowered.isSettled {n : Nat} (h : IsLowered n) :
    IsSettled (Char.ofNat n) ∧ isBlank (Char.ofNat n) = false := by
  obtain ⟨hbounds, houtside, hunlisted⟩ := h
  simp only [unsettledRanges, List.forall_mem_cons] at houtside
  have hvalid : n.isValidChar := by
    rw [Nat.isValidChar]
    omega
  have hn := toNat_ofNat_of_isValidChar hvalid
  generalize Char.ofNat n = c at *
  subst hn
  have hne (d : Char) (m : Nat) (hd : d.toNat = m) (hm : c.toNat ≠ m) : c ≠ d := by
    rintro rfl
    exact hm hd
  refine ⟨⟨?_, ?_, hne 'Σ' 0x3A3 rfl (by omega)⟩, ?_⟩
  · rw [foldChar, if_neg, if_neg (hne '\u00a0' 0xA0 rfl (by omega)),
      if_neg (hne '\u2019' 0x2019 rfl (by omega))]
    rintro (heq | heq | heq)
    · exact hne '\u2011' 0x2011 rfl (by omega) heq
    · exact hne '\u2013' 0x2013 rfl (by omega) heq
    · exact hne '\u2014' 0x2014 rfl (by omega) heq
  · rw [lowerChar, hunlisted, if_neg (hne 'İ' 0x130 rfl (by omega)),
      toLower_eq_self (by omega)]
    exact ite_self [c]
  · rw [← Bool.not_eq_true]
    simp only [isBlank, Bool.or_eq_true, Bool.and_eq_true, decide_eq_true_eq, beq_iff_eq]
    omega

/-- What is found of each character of a text holds of all. -/
theorem forall_mem_of_all {p : Char → Prop} [DecidablePred p]
    (h : s.all (fun c ↦ decide (p c)) = true) : ∀ c ∈ s, p c := by
  simpa using h

/-- A character is its own lower case, or its lower case is settled and holds no blank. -/
theorem lowerChar_cases (c : Char) : lowerChar c = [c] ∨
    ∀ d ∈ lowerChar c, IsSettled d ∧ isBlank d = false := by
  by_cases hascii : c.toNat < 128
  · have hall : ∀ n < 128, lowerChar (Char.ofNat n) = [Char.ofNat n] ∨
        (lowerChar (Char.ofNat n)).all (fun d ↦ decide (IsSettled d ∧ isBlank d = false)) = true := by
      decide +kernel
    refine ascii_cases (p := fun c ↦ lowerChar c = [c] ∨
      ∀ d ∈ lowerChar c, IsSettled d ∧ isBlank d = false) ?_ hascii
    exact fun n hn ↦ (hall n hn).imp_right forall_mem_of_all
  rw [lowerChar, if_neg hascii]
  split
  · exact .inr (forall_mem_of_all (by decide +kernel))
  · cases hlower : caseRuns.findSome? (·.lower? c.toNat) with
    | some n =>
      right
      simp only [List.mem_singleton, forall_eq]
      exact (isLowered_of_findSome? hlower).isSettled
    | none => exact .inl rfl

/-- The lower case of folded text is settled. -/
theorem isSettled_of_mem_lowerChar (hfold : foldChar c = c) (hsigma : c ≠ 'Σ')
    (h : d ∈ lowerChar c) : IsSettled d := by
  cases lowerChar_cases c with
  | inl hself =>
    rw [hself, List.mem_singleton] at h
    exact h ▸ ⟨hfold, hself, hsigma⟩
  | inr hsettled => exact (hsettled d h).1

private theorem isBlank_of_mem_lowerChar (hblank : isBlank c = false) (h : d ∈ lowerChar c) :
    isBlank d = false := by
  cases lowerChar_cases c with
  | inl hself =>
    rw [hself, List.mem_singleton] at h
    exact h ▸ hblank
  | inr hsettled => exact (hsettled d h).2

private theorem lowerChar_ne_nil (c : Char) : lowerChar c ≠ [] := by
  rw [lowerChar]
  split
  · exact List.cons_ne_nil _ _
  · split
    · exact List.cons_ne_nil _ _
    · split <;> exact List.cons_ne_nil _ _

/-! ### Lower case -/

/-- The lower case of a text is made of that of its characters, and of the two forms of one letter. -/
theorem mem_lowerAfter_cases {before : List Char} (h : d ∈ lowerAfter before s) :
    d ∈ ['ς', 'σ'] ∨ ∃ c ∈ s, c ≠ 'Σ' ∧ d ∈ lowerChar c := by
  induction s generalizing before with
  | nil => cases h
  | cons c s ih =>
    rw [lowerAfter, List.mem_append] at h
    cases h with
    | inl hhere =>
      split at hhere
      · left
        rw [List.mem_singleton.mp hhere]
        split <;> decide
      · next hsigma => exact .inr ⟨c, List.mem_cons_self, hsigma, hhere⟩
    | inr hlater =>
      obtain hform | ⟨c', hc', hrest⟩ := ih hlater
      · exact .inl hform
      · exact .inr ⟨c', List.mem_cons_of_mem c hc', hrest⟩

private theorem isSettled_of_mem_lower (hs : ∀ c ∈ s, foldChar c = c) (h : d ∈ lower s) : IsSettled d := by
  have hforms : ∀ d ∈ ['ς', 'σ'], IsSettled d := forall_mem_of_all (by decide +kernel)
  obtain hform | ⟨c, hc, hsigma, hd⟩ := mem_lowerAfter_cases h
  · exact hforms d hform
  · exact isSettled_of_mem_lowerChar (hs c hc) hsigma hd

private theorem isBlank_of_mem_lower (hs : ∀ c ∈ s, isBlank c = false) (h : d ∈ lower s) :
    isBlank d = false := by
  have hforms : ∀ d ∈ ['ς', 'σ'], isBlank d = false := forall_mem_of_all (by decide)
  obtain hform | ⟨c, hc, -, hd⟩ := mem_lowerAfter_cases h
  · exact hforms d hform
  · exact isBlank_of_mem_lowerChar (hs c hc) hd

private theorem lower_ne_nil (hs : s ≠ []) : lower s ≠ [] := by
  obtain ⟨c, s, rfl⟩ := List.exists_cons_of_ne_nil hs
  rw [lower, lowerAfter]
  apply List.append_ne_nil_of_left_ne_nil
  split
  · exact List.cons_ne_nil _ _
  · exact lowerChar_ne_nil c

/-- Settled text is its own lower case. -/
theorem lower_of_settled (hs : ∀ c ∈ s, IsSettled c) : lower s = s := by
  have hafter (before : List Char) : lowerAfter before s = s := by
    induction s generalizing before with
    | nil => rfl
    | cons c s ih =>
      obtain ⟨hc, hs⟩ := List.forall_mem_cons.mp hs
      rw [lowerAfter, if_neg hc.ne_sigma, hc.lower, ih hs]
      rfl
  exact hafter []

private theorem fold_of_settled (hs : ∀ c ∈ s, IsSettled c) : fold s = s := by
  rw [fold, List.map_congr_left fun c hc ↦ (hs c hc).fold, List.map_id']

/-! ### Words -/

private theorem isOneWord_lower {w : List Char} (hw : IsOneWord w) : IsOneWord (lower w) :=
  ⟨lower_ne_nil hw.1, fun _ hc ↦ isBlank_of_mem_lower hw.2 hc⟩

/-- Words one space apart stay so in lower case. -/
theorem Spaced.lower (h : Spaced s) : Spaced (lower s) := by
  induction h with
  | word hw => exact .word (isOneWord_lower hw)
  | space hw _ ih =>
    have hspace : isCaseless ' ' = true := by decide +kernel
    have hself : lowerChar ' ' = [' '] := by decide
    rw [lower_append hspace, lower_cons hspace, hself]
    exact .space (isOneWord_lower hw) ih

private theorem Spaced.append_space (hs : Spaced s) (ht : Spaced t) : Spaced (s ++ ' ' :: t) := by
  induction hs with
  | word hw => exact .space hw ht
  | space hw _ ih =>
    rw [List.append_assoc, List.cons_append]
    exact .space hw ih

/-- A word of a text is made of characters of the text that are not blank. -/
theorem of_mem_words {w : List Char} (h : w ∈ words s) :
    w ≠ [] ∧ ∀ c ∈ w, c ∈ s ∧ isBlank c = false := by
  have hweaken {c : Char} {s w : List Char} (hw : w ≠ [] ∧ ∀ d ∈ w, d ∈ s ∧ isBlank d = false) :
      w ≠ [] ∧ ∀ d ∈ w, d ∈ c :: s ∧ isBlank d = false :=
    ⟨hw.1, fun d hd ↦ ⟨List.mem_cons_of_mem c (hw.2 d hd).1, (hw.2 d hd).2⟩⟩
  induction s generalizing w with
  | nil => cases h
  | cons c s ih =>
    by_cases hc : isBlank c = true
    · rw [words_cons_of_blank hc] at h
      exact hweaken (ih h)
    · have hc : isBlank c = false := Bool.eq_false_iff.mpr hc
      have hself : [c] ≠ [] ∧ ∀ d ∈ [c], d ∈ c :: s ∧ isBlank d = false := by simp [hc]
      cases s with
      | nil =>
        rw [words_of_isOneWord ⟨List.cons_ne_nil c [], by simp [hc]⟩, List.mem_singleton] at h
        exact h ▸ hself
      | cons d s =>
        by_cases hd : isBlank d = true
        · rw [words_cons_cons_of_blank hc hd, List.mem_cons] at h
          obtain rfl | h := h
          · exact hself
          · exact hweaken (ih h)
        · obtain ⟨v, ws, hv, hcv⟩ := words_cons_cons hc (Bool.eq_false_iff.mpr hd) s
          rw [hv] at ih
          rw [hcv, List.mem_cons] at h
          obtain rfl | h := h
          · obtain ⟨-, hfirst⟩ := hweaken (c := c) (ih List.mem_cons_self)
            exact ⟨List.cons_ne_nil c v,
              List.forall_mem_cons.mpr ⟨⟨List.mem_cons_self, hc⟩, hfirst⟩⟩
          · exact hweaken (ih (List.mem_cons_of_mem v h))

/-- Words that are joined by spaces are one space apart. -/
theorem spaced_intercalate {ws : List (List Char)} (hne : ws ≠ []) (hws : ∀ w ∈ ws, IsOneWord w) :
    Spaced ([' '].intercalate ws) := by
  induction ws with
  | nil => exact absurd rfl hne
  | cons w ws ih =>
    obtain ⟨hw, hws⟩ := List.forall_mem_cons.mp hws
    cases ws with
    | nil =>
      rw [List.intercalate_singleton]
      exact .word hw
    | cons v ws =>
      rw [List.intercalate_cons_cons, List.append_assoc, List.singleton_append]
      exact .space hw (ih (List.cons_ne_nil v ws) hws)

/-- A collapsed text is empty or made of words one space apart. -/
theorem collapse_cases (s : List Char) : collapse s = [] ∨ Spaced (collapse s) := by
  rw [collapse]
  by_cases hne : words s = []
  · left
    rw [hne]
    rfl
  · right
    apply spaced_intercalate hne
    intro w hw
    obtain ⟨hword, hchars⟩ := of_mem_words hw
    exact ⟨hword, fun c hc ↦ (hchars c hc).2⟩

/-! ### Normal forms -/

/-- A text that is empty or made of words one space apart, of settled characters. -/
structure IsNormal (s : List Char) : Prop where
  spaced : s = [] ∨ Spaced s
  settled : ∀ c ∈ s, IsSettled c

private theorem foldChar_foldChar (c : Char) : foldChar (foldChar c) = foldChar c := by
  simp only [foldChar]
  split
  · decide
  · split
    · decide
    · split
      · decide
      · simp [*]

/-- Every normal form is such a text. -/
theorem isNormal_normalForm (t : List Char) : IsNormal (normalForm t) := by
  constructor
  · rw [normalForm]
    cases collapse_cases (fold t) with
    | inl hnil =>
      left
      rw [hnil]
      rfl
    | inr hspaced => exact .inr hspaced.lower
  · intro d hd
    refine isSettled_of_mem_lower (forall_mem_intercalate ?_ ?_) hd
    · exact forall_mem_of_all (by decide)
    · intro w hw c hc
      obtain ⟨c', -, rfl⟩ := List.mem_map.mp ((of_mem_words hw).2 c hc).1
      exact foldChar_foldChar c'

/-- Every such text is its own normal form. -/
theorem IsNormal.normalForm_eq (h : IsNormal s) : normalForm s = s := by
  have hcollapse : collapse s = s := by
    cases h.spaced with
    | inl hnil =>
      rw [hnil]
      rfl
    | inr hspaced => exact hspaced.collapse_eq
  rw [normalForm, fold_of_settled h.settled, hcollapse, lower_of_settled h.settled]

/-- The normal texts are those that are their own normal form. -/
theorem isNormal_iff : IsNormal s ↔ normalForm s = s :=
  ⟨IsNormal.normalForm_eq, fun h ↦ h ▸ isNormal_normalForm s⟩

/-- The normal form of a normal form is itself. -/
theorem normalForm_normalForm (t : List Char) : normalForm (normalForm t) = normalForm t :=
  (isNormal_normalForm t).normalForm_eq

/-- Two normal forms that are not empty are one normal form with a space between them. -/
theorem IsNormal.append_space (hs : IsNormal s) (ht : IsNormal t) (hsne : s ≠ []) (htne : t ≠ []) :
    IsNormal (s ++ ' ' :: t) where
  spaced := .inr ((hs.spaced.resolve_left hsne).append_space (ht.spaced.resolve_left htne))
  settled := by
    rw [List.forall_mem_append, List.forall_mem_cons]
    exact ⟨hs.settled, by decide, ht.settled⟩

end RuleCalendar.Text
