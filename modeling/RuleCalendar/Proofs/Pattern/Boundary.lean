import RuleCalendar.Proofs.Pattern.Match

/-!
# Searching a text in two parts

Main statement: a search in a text that goes on with a comma is a search in the part before it and,
if that finds nothing, in the part from it on, with or without a space before the comma. A
character that is part of no word, no digit, and in none of a pattern's texts is to a match what the
end of the text is. A space at the end of a text can be read, but a match cannot end behind it when
the pattern closes at an edge or at another character.
-/

namespace RuleCalendar

variable {c : Char}

namespace Cursor

/-- The place when more text stands around it. -/
def inside (left right : List Char) (here : Cursor) : Cursor :=
  ⟨here.behind ++ left, here.ahead ++ right⟩

end Cursor

namespace Pattern

/-- Whether a character stands in none of the pattern's texts. -/
def avoids (c : Char) : Pattern → Bool
  | text chars | unlessBehind chars => !chars.contains c
  | number _ _ | reads _ | edge => true
  | optional p | unlessAhead p => p.avoids c
  | either p q | follow p q => p.avoids c && q.avoids c

/-- Whether the pattern matches without going ahead. -/
def isStill : Pattern → Bool
  | reads _ | edge | unlessAhead _ | unlessBehind _ => true
  | _ => false

private theorem Matches.eq_of_isStill {p : Pattern} {here there : Cursor} {ns : List Int}
    (h : p.Matches here ns there) (hp : p.isStill = true) : there = here := by
  cases p with
  | reads n => exact (matches_reads.mp h).2
  | edge => exact (matches_edge.mp h).2.2
  | unlessAhead p => exact (matches_unlessAhead.mp h).2.2
  | unlessBehind chars => exact (matches_unlessBehind.mp h).2.2
  | text | number | optional | either | follow => cases hp

/-- Whether every match of the pattern ends at an edge or after a text that ends in no space. -/
def isClosed : Pattern → Bool
  | text chars => chars.getLast?.any (· != ' ')
  | edge => true
  | either p q => p.isClosed && q.isClosed
  | follow p q => q.isClosed || p.isClosed && q.isStill
  | _ => false

/-- Whether the patterns that must not match ahead are closed. -/
def isSteady : Pattern → Bool
  | unlessAhead p => p.isClosed && p.isSteady
  | optional p => p.isSteady
  | either p q | follow p q => p.isSteady && q.isSteady
  | _ => true

end Pattern

/-- What stands beside a text: nothing, or something that begins with the character. -/
def StartsWith (c : Char) (s : List Char) : Prop := ∀ d ∈ s.head?, d = c

/-- A character that is part of no word and no digit. -/
structure IsMark (c : Char) : Prop where
  isWord : Text.isWord c = false
  digitValue? : Text.digitValue? c = none

/-! ### A mark beside the text -/

section Mark

variable {left right : List Char}

private theorem any_isWord_append (hc : IsMark c) (h : StartsWith c right) (s : List Char) :
    (s ++ right).head?.any Text.isWord = s.head?.any Text.isWord := by
  cases s with
  | cons d s => rfl
  | nil =>
    cases right with
    | nil => rfl
    | cons d right =>
      have hd : d = c := h d rfl
      simp [hd, hc.isWord]

/-- A text beside a mark has the edges of words that it has alone. -/
theorem Cursor.atEdge_inside (hc : IsMark c) (hl : StartsWith c left) (hr : StartsWith c right)
    (here : Cursor) : (here.inside left right).atEdge = here.atEdge := by
  simp only [Cursor.atEdge, Cursor.inside, any_isWord_append hc hl, any_isWord_append hc hr]

private theorem Cursor.skip?_inside (hr : StartsWith c right) {chars : List Char} (h : c ∉ chars)
    (here : Cursor) :
    (here.inside left right).skip? chars = (here.skip? chars).map (·.inside left right) := by
  induction chars generalizing here with
  | nil => rfl
  | cons a chars ih =>
    obtain ⟨behind, ahead⟩ := here
    have hchars : c ∉ chars := fun hmem ↦ h (List.mem_cons_of_mem a hmem)
    cases ahead with
    | cons d ahead =>
      by_cases had : a = d
      · simpa [Cursor.skip?, Cursor.inside, had] using ih hchars ⟨d :: behind, ahead⟩
      · simp [Cursor.skip?, Cursor.inside, had]
    | nil =>
      cases right with
      | nil => rfl
      | cons d right =>
        have hd : d = c := hr d rfl
        have had : a ≠ d := fun he ↦ h (he ▸ hd ▸ List.mem_cons_self)
        simp [Cursor.skip?, Cursor.inside, had]

private theorem Cursor.numbers_inside (hc : IsMark c) (hr : StartsWith c right)
    (value least most : Nat) (here : Cursor) :
    (here.inside left right).numbers value least most =
      (here.numbers value least most).map fun r ↦ (r.1, r.2.inside left right) := by
  induction most generalizing value least here with
  | zero =>
    rw [Cursor.numbers, Cursor.numbers]
    split <;> rfl
  | succ most ih =>
    obtain ⟨behind, ahead⟩ := here
    have hstay : (if least = 0 then [(value, (⟨behind, ahead⟩ : Cursor).inside left right)] else []) =
        (if least = 0 then [(value, (⟨behind, ahead⟩ : Cursor))] else []).map
          fun r ↦ (r.1, r.2.inside left right) := by
      split <;> rfl
    cases ahead with
    | cons d ahead =>
      cases hd : Text.digitValue? d with
      | none => simpa [Cursor.numbers, Cursor.inside, hd] using hstay
      | some n =>
        have hih := ih (10 * value + n) (least - 1) ⟨d :: behind, ahead⟩
        simp only [Cursor.inside, List.cons_append] at hih hstay
        simp [Cursor.numbers, Cursor.inside, hd, hih, hstay]
    | nil =>
      cases right with
      | nil => simpa [Cursor.numbers, Cursor.inside] using hstay
      | cons d right =>
        have hd : Text.digitValue? d = none := by
          rw [hr d rfl]
          exact hc.digitValue?
        simpa [Cursor.numbers, Cursor.inside, hd] using hstay

/-- Text that begins with a character foreign to the words before it is not reached from behind. -/
theorem isPrefixOf_append {chars : List Char} (hl : StartsWith c left) (h : c ∉ chars)
    (s : List Char) : chars.isPrefixOf (s ++ left) = chars.isPrefixOf s := by
  induction chars generalizing s with
  | nil => simp
  | cons a chars ih =>
    have hchars : c ∉ chars := fun hmem ↦ h (List.mem_cons_of_mem a hmem)
    cases s with
    | cons d s => simp [List.isPrefixOf, ih hchars]
    | nil =>
      cases left with
      | nil => rfl
      | cons d left =>
        have hd : d = c := hl d rfl
        have had : a ≠ d := fun he ↦ h (he ▸ hd ▸ List.mem_cons_self)
        simp [List.isPrefixOf, had]

/-- Text beyond a mark on either side changes no match. -/
theorem Pattern.run_inside (hc : IsMark c) (hl : StartsWith c left) (hr : StartsWith c right)
    {p : Pattern} (hp : p.avoids c = true) (here : Cursor) :
    p.run (here.inside left right) =
      (p.run here).map fun m ↦ (m.1, m.2.inside left right) := by
  induction p generalizing here with
  | text chars =>
    have hchars : c ∉ chars := by simpa [avoids] using hp
    rw [run, run, Cursor.skip?_inside hr hchars]
    cases here.skip? chars <;> rfl
  | number least most =>
    rw [run, run, Cursor.numbers_inside hc hr, List.map_map, List.map_map]
    rfl
  | reads n => rfl
  | edge =>
    rw [run, run, Cursor.atEdge_inside hc hl hr]
    split <;> rfl
  | optional p ih =>
    rw [run, run, ih hp, List.map_append]
    rfl
  | either p q ihp ihq =>
    rw [avoids, Bool.and_eq_true] at hp
    rw [run, run, ihp hp.1, ihq hp.2, List.map_append]
  | follow p q ihp ihq =>
    rw [avoids, Bool.and_eq_true] at hp
    rw [run, run, ihp hp.1, List.flatMap_map, List.map_flatMap]
    apply congrArg (List.flatMap · (p.run here))
    funext m
    rw [ihq hp.2, List.map_map, List.map_map]
    rfl
  | unlessAhead p ih =>
    rw [run, run, ih hp, List.isEmpty_map]
    split <;> rfl
  | unlessBehind chars =>
    have hchars : c ∉ chars.reverse := by simpa [avoids] using hp
    rw [run, run, Cursor.inside, isPrefixOf_append hl hchars]
    split <;> rfl

private theorem Pattern.head?_run_inside (hc : IsMark c) (hl : StartsWith c left)
    (hr : StartsWith c right) {p : Pattern} (hp : p.avoids c = true) (here : Cursor) :
    (p.run (here.inside left right)).head?.map (·.1) = (p.run here).head?.map (·.1) := by
  rw [run_inside hc hl hr hp, List.head?_map, Option.map_map]
  rfl

end Mark

namespace Pattern

/-! ### Searches -/

private theorem searchFrom_append_behind (hc : IsMark c) {p : Pattern} (hp : p.avoids c = true)
    (behind further s : List Char) :
    p.searchFrom (behind ++ c :: further) s = p.searchFrom behind s := by
  have hleft : StartsWith c (c :: further) := by simp [StartsWith]
  have hright : StartsWith c [] := by simp [StartsWith]
  induction s generalizing behind with
  | nil =>
    have hrun := head?_run_inside hc hleft hright hp ⟨behind, []⟩
    rwa [Cursor.inside, List.append_nil] at hrun
  | cons d s ih =>
    have hrun := head?_run_inside hc hleft hright hp ⟨behind, d :: s⟩
    rw [Cursor.inside, List.append_nil] at hrun
    rw [searchFrom_cons, searchFrom_cons, hrun, ← ih (d :: behind)]
    rfl

private theorem searchFrom_append (hc : IsMark c) {p : Pattern} (hp : p.avoids c = true)
    (behind s rest : List Char) :
    p.searchFrom behind (s ++ c :: rest) = (p.searchFrom behind s).or (p.search rest) := by
  have hleft : StartsWith c [] := by simp [StartsWith]
  have hright : StartsWith c (c :: rest) := by simp [StartsWith]
  induction s generalizing behind with
  | nil =>
    have hrun := head?_run_inside hc hleft hright hp ⟨behind, []⟩
    rw [Cursor.inside, List.append_nil, List.nil_append] at hrun
    rw [List.nil_append, searchFrom_cons, hrun]
    exact congrArg _ (searchFrom_append_behind hc hp [] behind rest)
  | cons d s ih =>
    have hrun := head?_run_inside hc hleft hright hp ⟨behind, d :: s⟩
    rw [Cursor.inside, List.append_nil, List.cons_append] at hrun
    rw [List.cons_append, searchFrom_cons, searchFrom_cons, hrun, ih, Option.or_assoc]

/-- A mark that the pattern avoids parts a text in two that are searched one after the other. -/
theorem search_append (hc : IsMark c) {p : Pattern} (hp : p.avoids c = true)
    (s rest : List Char) : p.search (s ++ c :: rest) = (p.search s).or (p.search rest) :=
  searchFrom_append hc hp [] s rest

/-! ### A space at the end -/

/-- A closed pattern does not end its match at the end of a text that is empty or ends in a
space. -/
theorem Matches.ahead_ne_nil {p : Pattern} {here there : Cursor} {ns : List Int}
    (h : p.Matches here ns there) (hp : p.isClosed = true)
    (hspace : ∀ d ∈ here.text.getLast?, d = ' ') : there.ahead ≠ [] := by
  intro hend
  induction p generalizing here there ns with
  | text chars =>
    have hahead := (matches_text.mp h).2.ahead
    rw [hend, List.append_nil] at hahead
    rw [Cursor.text, hahead, List.getLast?_append] at hspace
    rw [isClosed] at hp
    cases hlast : chars.getLast? with
    | none => simp [hlast] at hp
    | some d =>
      rw [hlast] at hp hspace
      obtain rfl : d = ' ' := hspace d rfl
      simp at hp
  | edge =>
    obtain ⟨hedge, -, rfl⟩ := matches_edge.mp h
    rw [Cursor.text, hend, List.append_nil, List.getLast?_reverse] at hspace
    rw [Cursor.atEdge, hend] at hedge
    cases hbehind : there.behind.head? with
    | none => simp [hbehind] at hedge
    | some d =>
      rw [hbehind, hspace d hbehind] at hedge
      revert hedge
      decide
  | either p q ihp ihq =>
    rw [isClosed, Bool.and_eq_true] at hp
    cases matches_either.mp h with
    | inl hmatch => exact ihp hmatch hp.1 hspace hend
    | inr hmatch => exact ihq hmatch hp.2 hspace hend
  | follow p q ihp ihq =>
    obtain ⟨ks, mid, ms, hmatch, hrest, -⟩ := matches_follow.mp h
    rw [isClosed, Bool.or_eq_true, Bool.and_eq_true] at hp
    cases hp with
    | inl hq => exact ihq hrest hq (by rwa [hmatch.text_eq]) hend
    | inr hstill =>
      have hthere : there = mid := hrest.eq_of_isStill hstill.2
      exact ihp hmatch hstill.1 hspace (hthere ▸ hend)
  | number | reads | optional | unlessAhead | unlessBehind => cases hp

/-- Whether a match has text left behind its end. -/
private def hasRest (m : List Int × Cursor) : Bool := !m.2.ahead.isEmpty

private theorem text_inside_space (here : Cursor) :
    ∀ d ∈ (here.inside [] [' ']).text.getLast?, d = ' ' := by
  simp [Cursor.text, Cursor.inside]

private theorem filter_map_inside_space (ms : List (List Int × Cursor)) :
    (ms.map fun m ↦ (m.1, m.2.inside [] [' '])).filter hasRest =
      ms.map fun m ↦ (m.1, m.2.inside [] [' ']) := by
  rw [List.filter_eq_self]
  intro r hr
  obtain ⟨m, -, rfl⟩ := List.mem_map.mp hr
  simp [hasRest, Cursor.inside]

private theorem flatMap_filter {α β : Type} {f : α → List β} {keep : α → Bool}
    (h : ∀ a, keep a = false → f a = []) (as : List α) :
    (as.filter keep).flatMap f = as.flatMap f := by
  induction as with
  | nil => rfl
  | cons a as ih =>
    cases ha : keep a with
    | true => rw [List.filter_cons_of_pos ha, List.flatMap_cons, List.flatMap_cons, ih]
    | false =>
      rw [List.filter_cons_of_neg (by simp [ha]), List.flatMap_cons, h a ha, ih, List.nil_append]

private theorem skip?_inside_space (chars : List Char) (here : Cursor) :
    ((here.inside [] [' ']).skip? chars).filter (!·.ahead.isEmpty) =
      (here.skip? chars).map (·.inside [] [' ']) := by
  induction chars generalizing here with
  | nil => simp [Cursor.skip?, Cursor.inside]
  | cons c chars ih =>
    obtain ⟨behind, ahead⟩ := here
    cases ahead with
    | nil =>
      by_cases hc : c = ' '
      · cases chars <;> simp [Cursor.skip?, Cursor.inside, hc]
      · simp [Cursor.skip?, Cursor.inside, hc]
    | cons d ahead =>
      by_cases hcd : c = d
      · simpa [Cursor.skip?, Cursor.inside, hcd] using ih ⟨d :: behind, ahead⟩
      · simp [Cursor.skip?, Cursor.inside, hcd]

-- A match that begins at the end of the text leaves nothing behind it.
private theorem filter_hasRest_of_end (p : Pattern) {here : Cursor} (hend : here.ahead = []) :
    (p.run here).filter hasRest = [] := by
  rw [List.filter_eq_nil_iff]
  rintro ⟨ns, there⟩ hmatch
  obtain ⟨s, hs⟩ := Matches.reads hmatch
  have hthere : there.ahead = [] := (List.append_eq_nil_iff.mp (hs.ahead ▸ hend)).2
  simp [hasRest, hthere]

private theorem filter_hasRest_of_closed {p : Pattern} (hp : p.isClosed = true)
    (here : Cursor) :
    (p.run (here.inside [] [' '])).filter hasRest = p.run (here.inside [] [' ']) := by
  rw [List.filter_eq_self]
  rintro ⟨ns, there⟩ hmatch
  have hne := Matches.ahead_ne_nil hmatch hp (text_inside_space here)
  simpa [hasRest] using hne

private theorem filter_run_text (chars : List Char) (here : Cursor) :
    ((text chars).run (here.inside [] [' '])).filter hasRest =
      ((text chars).run here).map fun m ↦ (m.1, m.2.inside [] [' ']) := by
  have hskip := skip?_inside_space chars here
  rw [run, run]
  cases hwith : (here.inside [] [' ']).skip? chars with
  | none =>
    cases h : here.skip? chars with
    | none => rfl
    | some e => simp [hwith, h] at hskip
  | some e =>
    rw [hwith, Option.filter_some] at hskip
    cases h : here.skip? chars with
    | none =>
      rw [h] at hskip
      have hend : hasRest ([], e) = false := by simpa [hasRest] using hskip
      exact List.filter_cons_of_neg (by simp [hend])
    | some there =>
      rw [h] at hskip
      obtain rfl : e = there.inside [] [' '] := by
        split at hskip <;> simp_all
      exact filter_map_inside_space [([], there)]

-- The matches of two patterns in a row that leave text are made of matches that leave text.
private theorem filter_run_follow (p q : Pattern) (here : Cursor) :
    ((follow p q).run here).filter hasRest = ((p.run here).filter hasRest).flatMap fun m ↦
      ((q.run m.2).filter hasRest).map fun r ↦ (m.1 ++ r.1, r.2) := by
  have hrest (m : List Int × Cursor) :
      ((q.run m.2).map fun r ↦ (m.1 ++ r.1, r.2)).filter hasRest =
        ((q.run m.2).filter hasRest).map fun r ↦ (m.1 ++ r.1, r.2) := by
    rw [List.filter_map]
    rfl
  have hend (m : List Int × Cursor) (hm : hasRest m = false) :
      ((q.run m.2).filter hasRest).map (fun r ↦ (m.1 ++ r.1, r.2)) = [] := by
    rw [filter_hasRest_of_end q (by simpa [hasRest] using hm), List.map_nil]
  rw [run, List.filter_flatMap, flatMap_filter hend]
  simp only [hrest]

/-- The matches that leave a space at the end of the text unread are those without the space. -/
theorem filter_run_inside_space {p : Pattern} (hp : p.isSteady = true) (here : Cursor) :
    (p.run (here.inside [] [' '])).filter hasRest =
      (p.run here).map fun m ↦ (m.1, m.2.inside [] [' ']) := by
  have hmark : IsMark ' ' := ⟨by decide, by decide⟩
  have hleft : StartsWith ' ' [] := by simp [StartsWith]
  have hright : StartsWith ' ' [' '] := by simp [StartsWith]
  induction p generalizing here with
  | text chars => exact filter_run_text chars here
  | number least most =>
    have hnumbers : (number least most).run (here.inside [] [' ']) =
        ((number least most).run here).map fun m ↦ (m.1, m.2.inside [] [' ']) := by
      rw [run, run, Cursor.numbers_inside hmark hright, List.map_map, List.map_map]
      rfl
    rw [hnumbers, filter_map_inside_space]
  | reads n => exact filter_map_inside_space [([n], here)]
  | edge =>
    rw [run, run, Cursor.atEdge_inside hmark hleft hright]
    split
    · exact filter_map_inside_space [([], here)]
    · rfl
  | optional p ih =>
    rw [run, run, List.filter_append, ih hp, List.map_append]
    exact congrArg _ (filter_map_inside_space [([], here)])
  | either p q ihp ihq =>
    rw [isSteady, Bool.and_eq_true] at hp
    rw [run, run, List.filter_append, ihp hp.1, ihq hp.2, List.map_append]
  | follow p q ihp ihq =>
    rw [isSteady, Bool.and_eq_true] at hp
    rw [filter_run_follow, ihp hp.1, List.flatMap_map, run, List.map_flatMap]
    apply congrArg (List.flatMap · (p.run here))
    funext m
    rw [ihq hp.2, List.map_map, List.map_map]
    rfl
  | unlessAhead p ih =>
    rw [isSteady, Bool.and_eq_true] at hp
    rw [run, run, ← filter_hasRest_of_closed hp.1, ih hp.2, List.isEmpty_map]
    split
    · exact filter_map_inside_space [([], here)]
    · rfl
  | unlessBehind chars =>
    have hbehind : (here.inside [] [' ']).behind = here.behind := List.append_nil here.behind
    rw [run, run, hbehind]
    split
    · rfl
    · exact filter_map_inside_space [([], here)]

private theorem head?_run_inside_space {p : Pattern} (hclosed : p.isClosed = true)
    (hsteady : p.isSteady = true) (here : Cursor) :
    (p.run (here.inside [] [' '])).head?.map (·.1) = (p.run here).head?.map (·.1) := by
  have hall := filter_hasRest_of_closed hclosed here
  rw [← hall, filter_run_inside_space hsteady, List.head?_map, Option.map_map]
  rfl

private theorem searchFrom_nil {p : Pattern} (hclosed : p.isClosed = true) {behind : List Char}
    (hspace : ∀ d ∈ behind.head?, d = ' ') : p.searchFrom behind [] = none := by
  rw [Option.eq_none_iff_forall_ne_some]
  intro ns hns
  obtain ⟨l, r, there, hs, h⟩ := matches_of_searchFrom hns
  obtain ⟨rfl, rfl⟩ := List.append_eq_nil_iff.mp hs.symm
  obtain ⟨t, ht⟩ := h.reads
  have hend : there.ahead = [] := (List.append_eq_nil_iff.mp ht.ahead.symm).2
  exact h.ahead_ne_nil hclosed (by simpa [Cursor.text] using hspace) hend

private theorem searchFrom_append_space {p : Pattern} (hclosed : p.isClosed = true)
    (hsteady : p.isSteady = true) (behind s : List Char) :
    p.searchFrom behind (s ++ [' ']) = p.searchFrom behind s := by
  induction s generalizing behind with
  | nil =>
    have hend : p.searchFrom (' ' :: behind) [] = none :=
      searchFrom_nil hclosed (by simp)
    have hrun := head?_run_inside_space hclosed hsteady ⟨behind, []⟩
    rw [Cursor.inside, List.append_nil, List.nil_append] at hrun
    rw [List.nil_append, searchFrom_cons, hrun, hend, Option.or_none]
    rfl
  | cons d s ih =>
    have hrun := head?_run_inside_space hclosed hsteady ⟨behind, d :: s⟩
    rw [Cursor.inside, List.append_nil, List.cons_append] at hrun
    rw [List.cons_append, searchFrom_cons, searchFrom_cons, hrun, ih]

/-- A space at the end of a text does not help a closed pattern. -/
theorem search_append_space {p : Pattern} (hclosed : p.isClosed = true)
    (hsteady : p.isSteady = true) (s : List Char) : p.search (s ++ [' ']) = p.search s :=
  searchFrom_append_space hclosed hsteady [] s

/-- Whether matches of the pattern stay on one side of a comma and of a space before it. -/
def staysBesideComma (p : Pattern) : Bool := p.avoids ',' && p.isClosed && p.isSteady

/-- What a search finds in a text that goes on with a comma. -/
theorem search_append_comma {p : Pattern} (hp : p.staysBesideComma = true) {gap : List Char}
    (hgap : gap = [] ∨ gap = [' ']) (s rest : List Char) :
    p.search (s ++ gap ++ ',' :: rest) = (p.search s).or (p.search (',' :: rest)) := by
  have hmark : IsMark ',' := ⟨by decide, by decide⟩
  rw [staysBesideComma, Bool.and_eq_true, Bool.and_eq_true] at hp
  obtain ⟨⟨havoids, hclosed⟩, hsteady⟩ := hp
  have hempty : p.search [] = none := searchFrom_nil hclosed (by simp)
  have hrest : p.search (',' :: rest) = p.search rest := by
    have happend := search_append hmark havoids [] rest
    rwa [hempty, Option.none_or] at happend
  rw [search_append hmark havoids, hrest]
  cases hgap with
  | inl hnil => rw [hnil, List.append_nil]
  | inr hspace => rw [hspace, search_append_space hclosed hsteady]

end Pattern

end RuleCalendar
