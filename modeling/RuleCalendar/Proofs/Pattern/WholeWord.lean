import Mathlib.Data.List.TakeWhile
import RuleCalendar.Proofs.Pattern.Places
import RuleCalendar.Proofs.Pattern.Words

/-!
# Whole words

The words of a text are the maximal runs of characters of words, and they begin at its places from
left to right. A pattern that is put together from texts alone spells finitely many of them. Main
statement: between two edges, a pattern that spells nothing but words reads the first word of a text
that it spells.
-/

namespace RuleCalendar

variable {p : Pattern} {here there : Cursor} {s w : List Char}

/-! ### The words of a text -/

namespace Text

/-- A text of characters of words is one word. -/
theorem tokens_of_word (hne : w ≠ []) (hword : ∀ c ∈ w, isWord c = true) : tokens w = [w] := by
  induction w with
  | nil => exact absurd rfl hne
  | cons c w ih =>
    have hc : isWord c = true := hword c List.mem_cons_self
    cases w with
    | nil => simp [tokens, hc]
    | cons d w =>
      have hd : isWord d = true := hword d (by simp)
      have hrest : tokens (d :: w) = [d :: w] :=
        ih (List.cons_ne_nil d w) fun e he ↦ hword e (List.mem_cons_of_mem c he)
      simp [tokens, hc, hd, hrest]

private theorem tokens_cons_of_not_isWord {c : Char} (hc : isWord c = false) (s : List Char) :
    tokens (c :: s) = tokens s := by
  have happend : tokens ([c] ++ s) = tokens [c] ++ tokens s := tokens_append (by simp [hc])
  simpa [tokens, hc] using happend

/-- The first word goes up to the first character that is part of no word. -/
theorem tokens_cons_of_isWord {c : Char} (hc : isWord c = true) (s : List Char) :
    tokens (c :: s) = (c :: s.takeWhile isWord) :: tokens (s.dropWhile isWord) := by
  have hword : ∀ d ∈ c :: s.takeWhile isWord, isWord d = true := by
    intro d hd
    obtain rfl | hd := List.mem_cons.mp hd
    · exact hc
    · exact List.mem_takeWhile_imp hd
  have hstop : (s.dropWhile isWord).head?.any isWord = false := any_head?_dropWhile isWord s
  calc tokens (c :: s)
      = tokens ((c :: s.takeWhile isWord) ++ s.dropWhile isWord) := by
        rw [List.cons_append, List.takeWhile_append_dropWhile]
    _ = tokens (c :: s.takeWhile isWord) ++ tokens (s.dropWhile isWord) :=
        tokens_append (by simp [hstop])
    _ = (c :: s.takeWhile isWord) :: tokens (s.dropWhile isWord) := by
        rw [tokens_of_word (List.cons_ne_nil _ _) hword, List.singleton_append]

end Text

namespace Cursor

/-- A word stands between two places of a text, with no character of a word on either side. -/
structure IsToken (here : Cursor) (w : List Char) (there : Cursor) : Prop where
  reads : here.Reads w there
  ne_nil : w ≠ []
  word : ∀ c ∈ w, Text.isWord c = true
  left : here.behind.head?.any Text.isWord = false
  right : there.ahead.head?.any Text.isWord = false

/-- The word that begins at the place. -/
def token? (here : Cursor) : Option (List Char) :=
  if !here.behind.head?.any Text.isWord && here.ahead.head?.any Text.isWord then
    some (here.ahead.takeWhile Text.isWord)
  else none

private theorem IsToken.token?_eq (h : here.IsToken w there) : here.token? = some w := by
  have hfirst : here.ahead.head?.any Text.isWord = true := by
    rw [h.reads.ahead, List.head?_append_of_ne_nil _ h.ne_nil]
    exact (Text.any_isWord_of_word h.ne_nil h.word).1
  rw [token?, h.left, hfirst, h.reads.takeWhile_eq h.word h.right]
  rfl

/-- The word that begins at a place goes as far as characters of words stand ahead. -/
theorem token?_eq_some_iff : here.token? = some w ↔ ∃ there, here.IsToken w there := by
  constructor
  · intro h
    rw [token?] at h
    split at h
    · next hbegins =>
      rw [Bool.and_eq_true, Bool.not_eq_true'] at hbegins
      cases h
      have hne : here.ahead.takeWhile Text.isWord ≠ [] := by
        obtain ⟨behind, ahead⟩ := here
        cases ahead with
        | nil => cases hbegins.2
        | cons c ahead => simpa using hbegins.2
      refine ⟨⟨(here.ahead.takeWhile Text.isWord).reverse ++ here.behind,
        here.ahead.dropWhile Text.isWord⟩, ⟨?_, rfl⟩, hne, ?_, hbegins.1, ?_⟩
      · exact List.takeWhile_append_dropWhile.symm
      · exact fun c hc ↦ List.mem_takeWhile_imp hc
      · exact Text.any_head?_dropWhile Text.isWord here.ahead
    · cases h
  · rintro ⟨there, h⟩
    exact h.token?_eq

/-- Characters of words are a word of the text where edges stand on both sides. -/
theorem Reads.isToken_iff (h : here.Reads w there) (hne : w ≠ [])
    (hword : ∀ c ∈ w, Text.isWord c = true) :
    here.IsToken w there ↔ here.atEdge = true ∧ there.atEdge = true := by
  obtain ⟨hfirst, hlast⟩ := Text.any_isWord_of_word hne hword
  rw [h.atEdge_start_iff hfirst, h.atEdge_end_iff hlast]
  constructor
  · intro htoken
    exact ⟨htoken.left, htoken.right⟩
  · intro hends
    exact ⟨h, hne, hword, hends.1, hends.2⟩

/-- Where a character of a word stands behind, the word ahead has begun before. -/
theorem filterMap_token?_placesFrom (behind s : List Char) :
    (placesFrom behind s).filterMap token? = Text.tokens
      (if behind.head?.any Text.isWord then s.dropWhile Text.isWord else s) := by
  induction s generalizing behind with
  | nil => simp [placesFrom, token?, Text.tokens]
  | cons c s ih =>
    rw [placesFrom, List.filterMap_cons, ih]
    by_cases hbehind : behind.head?.any Text.isWord <;> by_cases hc : Text.isWord c
    · simp [token?, hbehind, hc]
    · simp [token?, hbehind, hc, Text.tokens_cons_of_not_isWord]
    · simp [token?, hbehind, hc, Text.tokens_cons_of_isWord]
    · simp [token?, hbehind, hc, Text.tokens_cons_of_not_isWord]

/-- The words of a text are those that begin at its places, from left to right. -/
theorem tokens_eq_filterMap_token? (s : List Char) :
    Text.tokens s = (places s).filterMap token? :=
  (filterMap_token?_placesFrom [] s).symm

/-- The words of a text are its maximal runs of characters of words. -/
theorem mem_tokens_iff :
    w ∈ Text.tokens s ↔ ∃ here there : Cursor, here.text = s ∧ here.IsToken w there := by
  rw [tokens_eq_filterMap_token?, List.mem_filterMap]
  simp only [mem_places, token?_eq_some_iff, exists_and_left]

private theorem skip?_append (l r : List Char) (here : Cursor) :
    here.skip? (l ++ r) = (here.skip? l).bind (skip? r) := by
  induction l generalizing here with
  | nil => rfl
  | cons c l ih =>
    obtain ⟨behind, ahead⟩ := here
    cases ahead with
    | nil => rfl
    | cons d ahead =>
      by_cases hcd : c = d
      · simp [skip?, hcd, ih]
      · simp [skip?, hcd]

end Cursor

/-! ### Patterns that spell texts -/

namespace Pattern

/-- Whether the pattern is put together from texts, without digits and conditions. -/
def isSpelled : Pattern → Bool
  | text _ | reads _ => true
  | optional p => p.isSpelled
  | either p q | follow p q => p.isSpelled && q.isSpelled
  | number _ _ | edge | unlessAhead _ | unlessBehind _ => false

/-- The texts that such a pattern spells, most wanted first, each with the numbers read of it. -/
def spellings : Pattern → List (List Int × List Char)
  | text chars => [([], chars)]
  | reads n => [([n], [])]
  | optional p => p.spellings ++ [([], [])]
  | either p q => p.spellings ++ q.spellings
  | follow p q => p.spellings.flatMap fun l ↦ q.spellings.map fun r ↦ (l.1 ++ r.1, l.2 ++ r.2)
  | number _ _ | edge | unlessAhead _ | unlessBehind _ => []

/-- Whether the pattern spells nothing but words. -/
def spellsWords (p : Pattern) : Bool :=
  p.isSpelled && p.spellings.all fun l ↦ !l.2.isEmpty && l.2.all Text.isWord

/-- The numbers that are read of a text that the pattern spells. -/
def readingOf? (p : Pattern) (w : List Char) : Option (List Int) :=
  (p.spellings.find? (·.2 = w)).map (·.1)

/-- The match that reads a spelled text ahead of a place, if it stands there. -/
def spelledAt (here : Cursor) (l : List Int × List Char) : List (List Int × Cursor) :=
  (here.skip? l.2).toList.map fun there ↦ (l.1, there)

/-- Such a pattern tries the texts that it spells one after the other. -/
theorem run_eq_flatMap_spelledAt (hp : p.isSpelled = true) (here : Cursor) :
    p.run here = p.spellings.flatMap (spelledAt here) := by
  induction p generalizing here with
  | text chars => simp [run, spellings, spelledAt]
  | reads n => rfl
  | optional p ih =>
    rw [run, spellings, List.flatMap_append, ih hp]
    rfl
  | either p q ihp ihq =>
    rw [isSpelled, Bool.and_eq_true] at hp
    rw [run, spellings, List.flatMap_append, ihp hp.1, ihq hp.2]
  | follow p q ihp ihq =>
    rw [isSpelled, Bool.and_eq_true] at hp
    rw [run, spellings, ihp hp.1, List.flatMap_assoc, List.flatMap_assoc]
    apply congrArg (List.flatMap · p.spellings)
    funext l
    rw [List.flatMap_map]
    simp only [spelledAt, Cursor.skip?_append]
    cases here.skip? l.2 with
    | none => simp
    | some mid =>
      simp only [Option.toList_some, List.map_cons, List.map_nil, List.flatMap_singleton,
        Option.bind_some, ihq hp.2, List.map_flatMap, spelledAt, List.map_map]
      rfl
  | number | edge | unlessAhead | unlessBehind => cases hp

/-- Between two edges, the matches are those that begin and end at an edge. -/
theorem run_whole (p : Pattern) (here : Cursor) :
    (whole p).run here = (p.run here).filter fun m ↦ here.atEdge && m.2.atEdge := by
  have hfirst : (edge ++ p).run here = if here.atEdge then p.run here else [] := by
    show ((edge.run here).flatMap fun m ↦ (p.run m.2).map fun r ↦ (m.1 ++ r.1, r.2)) = _
    rw [run]
    split <;> simp
  have hlast : (whole p).run here = ((edge ++ p).run here).filter (·.2.atEdge) := by
    show (((edge ++ p).run here).flatMap fun m ↦ (edge.run m.2).map fun r ↦ (m.1 ++ r.1, r.2)) = _
    simp only [run]
    induction (edge ++ p).run here with
    | nil => rfl
    | cons m ms ih =>
      rw [List.flatMap_cons, List.filter_cons, ih]
      split <;> simp
  rw [hlast, hfirst]
  cases here.atEdge <;> simp

/-- Between two edges, a spelled word is read where it is the word that begins at the place. -/
theorem find?_spelledAt {l : List Int × List Char} (hne : l.2 ≠ [])
    (hword : ∀ c ∈ l.2, Text.isWord c = true) (here : Cursor) :
    ((spelledAt here l).find? fun m ↦ here.atEdge && m.2.atEdge).map (·.1) =
      if here.token? = some l.2 then some l.1 else none := by
  rw [spelledAt]
  cases hskip : here.skip? l.2 with
  | none =>
    have hnot : here.token? ≠ some l.2 := by
      intro htoken
      obtain ⟨there, h⟩ := Cursor.token?_eq_some_iff.mp htoken
      rw [Cursor.skip?_eq_some.mpr h.reads] at hskip
      cases hskip
    rw [if_neg hnot]
    rfl
  | some there =>
    have hread := Cursor.skip?_eq_some.mp hskip
    have htoken : here.token? = some l.2 ↔ (here.atEdge && there.atEdge) = true := by
      rw [Bool.and_eq_true, ← hread.isToken_iff hne hword]
      constructor
      · intro h
        obtain ⟨last, h⟩ := Cursor.token?_eq_some_iff.mp h
        have hlast : some last = some there := (Cursor.skip?_eq_some.mpr h.reads).symm.trans hskip
        exact Option.some.inj hlast ▸ h
      · exact Cursor.IsToken.token?_eq
    simp only [htoken]
    cases hedges : here.atEdge && there.atEdge <;> simp [hedges]

private theorem head?_run_whole (hp : p.spellsWords = true) (here : Cursor) :
    ((whole p).run here).head?.map (·.1) = here.token?.bind p.readingOf? := by
  rw [spellsWords, Bool.and_eq_true, List.all_eq_true] at hp
  obtain ⟨hspelled, hwords⟩ := hp
  have hspelling : ∀ l ∈ p.spellings,
      ((spelledAt here l).find? fun m ↦ here.atEdge && m.2.atEdge).map (·.1) =
        if here.token? = some l.2 then some l.1 else none := by
    intro l hl
    have hword := hwords l hl
    rw [Bool.and_eq_true, List.all_eq_true] at hword
    exact find?_spelledAt (by simpa using hword.1) hword.2 here
  rw [run_whole, List.head?_filter, run_eq_flatMap_spelledAt hspelled, List.find?_flatMap,
    List.map_findSome?]
  apply (findSome?_congr hspelling).trans
  cases here.token? with
  | none => simp
  | some w =>
    rw [Option.bind_some, readingOf?, List.find?_eq_findSome?_guard, List.map_findSome?]
    apply findSome?_congr
    intro l _
    by_cases hl : l.2 = w
    · simp [Option.guard, hl]
    · simp [Option.guard, hl, Ne.symm hl]

/-- Between two edges, a pattern that spells words reads the first word that it spells. -/
theorem search_whole (hp : p.spellsWords = true) (s : List Char) :
    (whole p).search s = (Text.tokens s).findSome? p.readingOf? := by
  rw [search, searchFrom_eq_findSome?, Cursor.tokens_eq_filterMap_token?, ← List.head?_filterMap,
    ← List.head?_filterMap, List.filterMap_filterMap]
  simp only [head?_run_whole hp]
  rfl

/-! ### Names -/

private theorem spellings_oneOf (ps : List Pattern) : (oneOf ps).spellings = ps.flatMap spellings := by
  induction ps using oneOf.induct with
  | case1 => rfl
  | case2 p => simp [oneOf]
  | case3 p ps hps ih =>
    rw [oneOf, spellings, ih, List.flatMap_cons]
    exact hps

/-- The spellings of a name are the names there are, each with its number. -/
theorem spellings_name (names : List (String × Int)) :
    (name names).spellings = names.map fun n ↦ ([n.2], n.1.toList) := by
  rw [name, spellings_oneOf, List.flatMap_map]
  induction names with
  | nil => rfl
  | cons n names ih =>
    rw [List.flatMap_cons, List.map_cons, ih]
    show [(([] : List Int) ++ [n.2], n.1.toList ++ [])] ++ _ = _
    rw [List.append_nil]
    rfl

end Pattern

end RuleCalendar
