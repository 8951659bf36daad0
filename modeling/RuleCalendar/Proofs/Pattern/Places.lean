import Mathlib.Data.List.Basic
import RuleCalendar.Proofs.Pattern.Match

/-!
# The places of a text

Main statements: a search gives what is read on the most wanted way at the first place of a text, from
left to right, where its pattern matches; in front of a character of a word there is an edge just
where no character of a word stands behind, and after one just where none stands ahead. As digits
are characters of words, a number between two edges is read from all the digits that stand together.
-/

namespace RuleCalendar

variable {p : Pattern} {here there : Cursor} {ns : List Int} {s : List Char}

namespace Cursor

/-! ### Places -/

/-- The places of a text from left to right, when other text stands before it. -/
def placesFrom (behind : List Char) : List Char → List Cursor
  | [] => [⟨behind, []⟩]
  | c :: ahead => ⟨behind, c :: ahead⟩ :: placesFrom (c :: behind) ahead

/-- The places of a text from left to right. -/
def places (s : List Char) : List Cursor := placesFrom [] s

private theorem mem_placesFrom {behind : List Char} :
    there ∈ placesFrom behind s ↔ ∃ l, (⟨behind, s⟩ : Cursor).Reads l there := by
  induction s generalizing behind with
  | nil =>
    rw [placesFrom, List.mem_singleton]
    constructor
    · rintro rfl
      exact ⟨[], .refl _⟩
    · rintro ⟨l, hread⟩
      obtain ⟨rfl, -⟩ := List.append_eq_nil_iff.mp hread.ahead.symm
      exact hread.eq
  | cons c s ih =>
    rw [placesFrom, List.mem_cons, ih]
    constructor
    · rintro (rfl | ⟨l, hread⟩)
      · exact ⟨[], .refl _⟩
      · exact ⟨c :: l, reads_cons.trans hread⟩
    · rintro ⟨l, hread⟩
      cases l with
      | nil => exact .inl hread.eq
      | cons d l =>
        obtain ⟨mid, hfirst, hrest⟩ := Reads.exists_mid (l := [d]) hread
        obtain ⟨-, rfl⟩ := reads_singleton.mp hfirst
        exact .inr ⟨l, hrest⟩

/-- A place is one of the places of the text around it. -/
theorem mem_places : here ∈ places s ↔ here.text = s := by
  rw [places, mem_placesFrom]
  constructor
  · rintro ⟨l, hread⟩
    exact hread.text_eq
  · rintro rfl
    exact ⟨here.behind.reverse, rfl, by simp⟩

/-- A place comes before another one of the same text. -/
structure Precedes (earlier here : Cursor) : Prop where
  text : earlier.text = here.text
  lt : earlier.behind.length < here.behind.length

private theorem pairwise_placesFrom (behind s : List Char) :
    (placesFrom behind s).Pairwise fun e e' ↦ e.behind.length < e'.behind.length := by
  induction s generalizing behind with
  | nil => exact List.pairwise_singleton _ _
  | cons c s ih =>
    refine List.pairwise_cons.mpr ⟨?_, ih (c :: behind)⟩
    intro e he
    obtain ⟨l, hread⟩ := mem_placesFrom.mp he
    have hlength := congrArg List.length hread.behind
    rw [List.length_append, List.length_cons] at hlength
    show behind.length < e.behind.length
    omega

/-- Of the places of a text, those that come before a place stand in front of it. -/
theorem mem_before_iff {before after : List Cursor} {earlier : Cursor}
    (h : places s = before ++ here :: after) : earlier ∈ before ↔ earlier.Precedes here := by
  have hpairwise : (before ++ here :: after).Pairwise fun e e' ↦
      e.behind.length < e'.behind.length := h ▸ pairwise_placesFrom [] s
  obtain ⟨-, hafter, hbefore⟩ := List.pairwise_append.mp hpairwise
  have hhere : here.text = s := mem_places.mp (h ▸ List.mem_append_right _ List.mem_cons_self)
  constructor
  · intro hmem
    have htext : earlier.text = s := mem_places.mp (h ▸ List.mem_append_left _ hmem)
    exact ⟨htext.trans hhere.symm, hbefore _ hmem _ List.mem_cons_self⟩
  · rintro ⟨htext, hlt⟩
    have hmem : earlier ∈ before ++ here :: after := h ▸ mem_places.mpr (htext.trans hhere)
    rw [List.mem_append, List.mem_cons] at hmem
    obtain hbefore | rfl | hmem := hmem
    · exact hbefore
    · exact absurd hlt (Nat.lt_irrefl _)
    · exact absurd hlt (Nat.lt_asymm ((List.pairwise_cons.mp hafter).1 _ hmem))

end Cursor

/-- Two searches that agree on each element find the same. -/
theorem findSome?_congr {α β : Type} {f g : α → Option β} {l : List α}
    (h : ∀ a ∈ l, f a = g a) : l.findSome? f = l.findSome? g := by
  induction l with
  | nil => rfl
  | cons a l ih =>
    rw [List.findSome?_cons, List.findSome?_cons, h a List.mem_cons_self,
      ih fun b hb ↦ h b (List.mem_cons_of_mem a hb)]

namespace Pattern

open Cursor

/-- A search goes through the places of a text from left to right. -/
theorem searchFrom_eq_findSome? (p : Pattern) (behind s : List Char) :
    p.searchFrom behind s = (placesFrom behind s).findSome? fun e ↦ (p.run e).head?.map (·.1) := by
  induction s generalizing behind with
  | nil =>
    rw [searchFrom, placesFrom, List.findSome?_singleton]
  | cons c s ih =>
    rw [searchFrom_cons, placesFrom, List.findSome?_cons, ih]
    cases (p.run ⟨behind, c :: s⟩).head? <;> rfl

/-- A search finds what is read at the first place with a match. -/
theorem search_eq_some_iff :
    p.search s = some ns ↔ ∃ here, here.text = s ∧ (p.run here).head?.map (·.1) = some ns ∧
      ∀ earlier, earlier.Precedes here → p.run earlier = [] := by
  have hnone (e : Cursor) : (p.run e).head?.map (·.1) = none ↔ p.run e = [] := by simp
  have hsearch : p.search s = (places s).findSome? fun e ↦ (p.run e).head?.map (·.1) :=
    searchFrom_eq_findSome? p [] s
  rw [hsearch, List.findSome?_eq_some_iff]
  simp only [hnone]
  constructor
  · rintro ⟨before, here, after, hplaces, hhere, hbefore⟩
    refine ⟨here, ?_, hhere, ?_⟩
    · exact mem_places.mp (hplaces ▸ List.mem_append_right _ List.mem_cons_self)
    · intro earlier hprecedes
      exact hbefore earlier ((mem_before_iff hplaces).mpr hprecedes)
  · rintro ⟨here, htext, hhere, hearlier⟩
    obtain ⟨before, after, hplaces⟩ := List.append_of_mem (mem_places.mpr htext)
    refine ⟨before, here, after, hplaces, hhere, ?_⟩
    intro earlier hmem
    exact hearlier earlier ((mem_before_iff hplaces).mp hmem)

end Pattern

/-! ### Edges -/

namespace Cursor

/-- A word begins at a place in front of one of its characters where none stands behind. -/
theorem Reads.atEdge_start_iff (h : here.Reads s there) (hs : s.head?.any Text.isWord = true) :
    here.atEdge = true ↔ here.behind.head?.any Text.isWord = false := by
  have hne : s ≠ [] := by
    rintro rfl
    cases hs
  rw [atEdge, h.ahead, List.head?_append_of_ne_nil _ hne, hs]
  cases here.behind.head?.any Text.isWord <;> decide

/-- A word ends at a place after one of its characters where none stands ahead. -/
theorem Reads.atEdge_end_iff (h : here.Reads s there) (hs : s.getLast?.any Text.isWord = true) :
    there.atEdge = true ↔ there.ahead.head?.any Text.isWord = false := by
  have hne : s.reverse ≠ [] := by
    intro hnil
    rw [List.reverse_eq_nil_iff.mp hnil] at hs
    cases hs
  rw [atEdge, h.behind, List.head?_append_of_ne_nil _ hne, List.head?_reverse, hs]
  cases there.ahead.head?.any Text.isWord <;> decide

end Cursor

/-! ### Digits and characters of words -/

/-- Digits are characters of words. -/
theorem Text.isWord_of_isDigit {c : Char} (h : isDigit c = true) : isWord c = true := by
  have htable : (digitZeros.all fun z ↦ Nat.ble 128 z &&
      alphanumericRanges.any fun r ↦ Nat.ble r.1 z && Nat.ble (z + 9) r.2) = true := by
    decide +kernel
  simp only [isDigit, digitValue?] at h
  split at h
  · split at h
    · next hdigit =>
      have hdigit : c.isDigit = true := by
        simpa [Char.isDigit, UInt32.le_iff_toNat_le] using hdigit
      simp [isWord, Char.isAlphanum, hdigit]
    · cases h
  · rw [Option.isSome_map, List.find?_isSome] at h
    obtain ⟨z, hz, hrange⟩ := h
    have hz := List.all_eq_true.mp htable z hz
    simp only [Bool.and_eq_true, List.any_eq_true, Nat.ble_eq, decide_eq_true_eq] at hz hrange
    obtain ⟨hhigh, r, hr, hlow, hup⟩ := hz
    have hin : inRanges alphanumericRanges c.toNat = true := by
      rw [inRanges, List.any_eq_true]
      exact ⟨r, hr, by simp; omega⟩
    simp only [isWord, hin, Bool.and_true, Bool.or_eq_true, decide_eq_true_eq]
    exact .inr (by omega)

/-- What is part of no word is no digit. -/
theorem Text.any_isDigit_of_any_isWord {c : Option Char} (h : c.any isWord = false) :
    c.any isDigit = false := by
  cases c with
  | none => rfl
  | some c =>
    rw [Option.any_some, ← Bool.not_eq_true] at h ⊢
    exact fun hdigit ↦ h (isWord_of_isDigit hdigit)

/-- What is left behind the characters of a kind begins with none of them. -/
theorem Text.any_head?_dropWhile (kind : Char → Bool) (s : List Char) :
    (s.dropWhile kind).head?.any kind = false := by
  have hstop := List.head?_dropWhile_not kind s
  cases hrest : (s.dropWhile kind).head? with
  | none => rfl
  | some c =>
    rw [hrest] at hstop
    exact hstop

/-- A word begins and ends with characters of words. -/
theorem Text.any_isWord_of_word {l : List Char} (hl : l ≠ []) (hword : ∀ c ∈ l, isWord c = true) :
    l.head?.any isWord = true ∧ l.getLast?.any isWord = true := by
  rw [List.head?_eq_some_head hl, List.getLast?_eq_some_getLast hl]
  exact ⟨hword _ (List.head_mem hl), hword _ (List.getLast_mem hl)⟩

/-- A text of digits begins and ends with characters of words. -/
theorem Text.any_isWord_of_isDigit {l : List Char} (hl : l ≠ [])
    (hdigits : ∀ c ∈ l, isDigit c = true) :
    l.head?.any isWord = true ∧ l.getLast?.any isWord = true :=
  any_isWord_of_word hl fun c hc ↦ isWord_of_isDigit (hdigits c hc)

namespace Cursor

/-- What is followed by no further character of a kind holds all such characters ahead. -/
theorem Reads.takeWhile_eq {kind : Char → Bool} (h : here.Reads s there)
    (hs : ∀ c ∈ s, kind c = true) (hstop : there.ahead.head?.any kind = false) :
    here.ahead.takeWhile kind = s := by
  have hrest : there.ahead.takeWhile kind = [] := by
    cases hahead : there.ahead with
    | nil => rfl
    | cons c ahead =>
      rw [hahead] at hstop
      exact List.takeWhile_cons_of_neg (by simpa using hstop)
  rw [h.ahead, List.takeWhile_append_of_pos hs, hrest, List.append_nil]

end Cursor

end RuleCalendar
