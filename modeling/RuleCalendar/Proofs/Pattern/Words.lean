import RuleCalendar.Proofs.Pattern.Match

/-!
# The words a pattern looks for

A pattern matches only finitely many texts without digits. Main statement: a pattern whose texts without
digits all hold one of some words, and whose matches begin and end at edges, occurs in no text that has
neither digits nor one of these words.
-/

namespace RuleCalendar

variable {here there : Cursor} {ns : List Int} {s l r : List Char}

/-! ### Words of a text in parts -/

namespace Text

private theorem tokens_cons_ne_nil {c : Char} (hc : isWord c = true) (s : List Char) :
    tokens (c :: s) ≠ [] := by
  cases s with
  | nil => simp [tokens, hc]
  | cons d rest =>
    rw [tokens, if_neg (by simp [hc])]
    split
    · exact List.cons_ne_nil _ _
    · split <;> exact List.cons_ne_nil _ _

/-- Where characters of words do not meet, the words of a text are those of its two parts. -/
theorem tokens_append (h : ¬ (l.getLast?.any isWord = true ∧ r.head?.any isWord = true)) :
    tokens (l ++ r) = tokens l ++ tokens r := by
  induction l using tokens.induct with
  | case1 => rfl
  | case2 c hc =>
    have hr : r.head?.any isWord = false := by simpa [hc] using h
    cases r with
    | nil => simp [tokens]
    | cons d r =>
      have hd : isWord d = false := hr
      simp [tokens, hc, hd]
  | case3 c hc =>
    have hc : isWord c = false := Bool.eq_false_iff.mpr hc
    cases r <;> simp [tokens, hc]
  | case4 c d rest hc ih =>
    have hrest := ih (by simpa using h)
    rw [List.cons_append, List.cons_append, tokens, if_pos hc, ← List.cons_append, hrest, tokens,
      if_pos hc]
  | case5 c d rest hc hd ih =>
    have hrest := ih (by simpa using h)
    rw [List.cons_append, List.cons_append, tokens, if_neg hc, if_pos hd, ← List.cons_append, hrest,
      tokens, if_neg hc, if_pos hd, List.cons_append]
  | case6 c d rest hc hd t ts ht ih =>
    have hrest := ih (by simpa using h)
    rw [ht, List.cons_append, List.cons_append] at hrest
    rw [List.cons_append, List.cons_append, tokens, if_neg hc, if_neg hd, hrest, tokens, if_neg hc,
      if_neg hd, ht, List.cons_append]
  | case7 c d rest hc hd hnil ih =>
    -- A character of a word begins a word, so the definition never gets here.
    exact absurd hnil (tokens_cons_ne_nil (by simpa using hd) rest)

end Text

/-- Characters of words do not meet at an edge. -/
theorem Cursor.not_and_of_atEdge (h : here.atEdge = true) :
    ¬ (here.behind.head?.any Text.isWord = true ∧ here.ahead.head?.any Text.isWord = true) := by
  rw [atEdge, bne_iff_ne] at h
  rintro ⟨hbehind, hahead⟩
  exact h (hbehind.trans hahead.symm)

/-- The words between two edges are words of the whole text. -/
theorem Cursor.Reads.tokens_subset (h : here.Reads s there) (hstart : here.atEdge = true)
    (hend : there.atEdge = true) : Text.tokens s ⊆ Text.tokens here.text := by
  have hleft := not_and_of_atEdge hstart
  have hright : ¬ (s.getLast?.any Text.isWord = true ∧
      there.ahead.head?.any Text.isWord = true) := by
    have hmeet := not_and_of_atEdge hend
    rintro ⟨hlast, hahead⟩
    rw [h.behind, List.head?_append, List.head?_reverse] at hmeet
    cases hs : s.getLast? with
    | none => simp [hs] at hlast
    | some c => exact hmeet ⟨by rwa [hs] at hlast ⊢, hahead⟩
  rw [← List.getLast?_reverse] at hleft
  rw [text, Text.tokens_append hleft, h.ahead, Text.tokens_append hright]
  exact List.Subset.trans (List.subset_append_left _ _) (List.subset_append_right _ _)

/-! ### The texts of a pattern -/

namespace Pattern

variable {p : Pattern}

/-- What the pattern can read of a text without digits. -/
def texts : Pattern → List (List Char)
  | text chars => [chars]
  | number least _ => if least = 0 then [[]] else []
  | reads _ | edge | unlessAhead _ | unlessBehind _ => [[]]
  | optional p => p.texts ++ [[]]
  | either p q => p.texts ++ q.texts
  | follow p q => p.texts.flatMap fun l ↦ q.texts.map (l ++ ·)

private theorem Matches.exists_mem_texts (hdigits : ∀ c ∈ here.text, Text.isDigit c = false)
    (h : p.Matches here ns there) : ∃ t ∈ p.texts, here.Reads t there := by
  have hnil {p : Pattern} {here there : Cursor} (hp : p.texts = [[]]) (hstay : there = here) :
      ∃ t ∈ p.texts, here.Reads t there :=
    ⟨[], by simp [hp], hstay ▸ .refl here⟩
  induction p generalizing here ns there with
  | text chars => exact ⟨chars, List.mem_singleton_self chars, (matches_text.mp h).2⟩
  | number least most =>
    obtain ⟨ds, hread, hds, hlength, -⟩ := matches_number.mp h
    -- The digits of the number would stand in the text.
    obtain rfl : ds = [] := by
      apply List.eq_nil_iff_forall_not_mem.mpr
      intro c hc
      have hnone := hdigits c (hread.isInfix.subset hc)
      rw [hds c hc] at hnone
      cases hnone
    have hleast : least = 0 := Nat.le_zero.mp hlength.1
    exact ⟨[], by simp [texts, hleast], hread⟩
  | reads n => exact hnil rfl (matches_reads.mp h).2
  | edge => exact hnil rfl (matches_edge.mp h).2.2
  | optional p ih =>
    cases matches_optional.mp h with
    | inl hmatch =>
      obtain ⟨t, ht, hread⟩ := ih hdigits hmatch
      exact ⟨t, List.mem_append_left _ ht, hread⟩
    | inr hstay => exact ⟨[], by simp [texts], hstay.2 ▸ .refl here⟩
  | either p q ihp ihq =>
    cases matches_either.mp h with
    | inl hmatch =>
      obtain ⟨t, ht, hread⟩ := ihp hdigits hmatch
      exact ⟨t, List.mem_append_left _ ht, hread⟩
    | inr hmatch =>
      obtain ⟨t, ht, hread⟩ := ihq hdigits hmatch
      exact ⟨t, List.mem_append_right _ ht, hread⟩
  | follow p q ihp ihq =>
    obtain ⟨_, mid, _, hfirst, hsecond, -⟩ := matches_follow.mp h
    obtain ⟨l, hl, hleft⟩ := ihp hdigits hfirst
    obtain ⟨r, hr, hright⟩ := ihq (hfirst.text_eq ▸ hdigits) hsecond
    exact ⟨l ++ r, List.mem_flatMap.mpr ⟨l, hl, List.mem_map_of_mem hr⟩, hleft.trans hright⟩
  | unlessAhead p => exact hnil rfl (matches_unlessAhead.mp h).2.2
  | unlessBehind chars => exact hnil rfl (matches_unlessBehind.mp h).2.2

/-- Whether every match begins at an edge. -/
def opensAtEdge : Pattern → Bool
  | edge => true
  | either p q => p.opensAtEdge && q.opensAtEdge
  | follow p _ => p.opensAtEdge
  | _ => false

/-- Whether every match ends at an edge. -/
def closesAtEdge : Pattern → Bool
  | edge => true
  | either p q => p.closesAtEdge && q.closesAtEdge
  | follow _ q => q.closesAtEdge
  | _ => false

private theorem Matches.atEdge_start (h : p.Matches here ns there) (hp : p.opensAtEdge = true) :
    here.atEdge = true := by
  induction p generalizing here ns there with
  | edge => exact (matches_edge.mp h).1
  | either p q ihp ihq =>
    rw [opensAtEdge, Bool.and_eq_true] at hp
    cases matches_either.mp h with
    | inl hmatch => exact ihp hmatch hp.1
    | inr hmatch => exact ihq hmatch hp.2
  | follow p q ihp _ =>
    obtain ⟨_, _, _, hfirst, -, -⟩ := matches_follow.mp h
    exact ihp hfirst hp
  | text | number | reads | optional | unlessAhead | unlessBehind => cases hp

private theorem Matches.atEdge_end (h : p.Matches here ns there) (hp : p.closesAtEdge = true) :
    there.atEdge = true := by
  induction p generalizing here ns there with
  | edge =>
    obtain ⟨hedge, -, rfl⟩ := matches_edge.mp h
    exact hedge
  | either p q ihp ihq =>
    rw [closesAtEdge, Bool.and_eq_true] at hp
    cases matches_either.mp h with
    | inl hmatch => exact ihp hmatch hp.1
    | inr hmatch => exact ihq hmatch hp.2
  | follow p q _ ihq =>
    obtain ⟨_, _, _, -, hsecond, -⟩ := matches_follow.mp h
    exact ihq hsecond hp
  | text | number | reads | optional | unlessAhead | unlessBehind => cases hp

/-- Whether each text of the pattern has a digit, or holds one of the words between its edges. -/
def needsWord (words : List (List Char)) (p : Pattern) : Bool :=
  p.texts.all fun t ↦ t.any Text.isDigit ||
    p.opensAtEdge && p.closesAtEdge && (Text.tokens t).any words.contains

/-- Such a pattern occurs in no text that has neither digits nor one of the words. -/
theorem occursIn_eq_false_of_needsWord {words : List (List Char)} (hp : p.needsWord words = true)
    (hdigits : ∀ c ∈ s, Text.isDigit c = false) (hwords : ∀ w ∈ Text.tokens s, w ∉ words) :
    p.occursIn s = false := by
  rw [← Bool.not_eq_true, occursIn_iff]
  rintro ⟨here, ns, there, rfl, hmatch⟩
  obtain ⟨t, ht, hread⟩ := hmatch.exists_mem_texts hdigits
  have hneeds := List.all_eq_true.mp hp t ht
  simp only [Bool.or_eq_true, Bool.and_eq_true, List.any_eq_true] at hneeds
  obtain ⟨c, hc, hdigit⟩ | ⟨⟨hopens, hcloses⟩, w, hw, hmem⟩ := hneeds
  · rw [hdigits c (hread.isInfix.subset hc)] at hdigit
    cases hdigit
  · have htoken := hread.tokens_subset (hmatch.atEdge_start hopens) (hmatch.atEdge_end hcloses) hw
    exact hwords w htoken (List.contains_iff_mem.mp hmem)

end Pattern

end RuleCalendar
