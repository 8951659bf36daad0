import RuleCalendar.Pattern

/-!
# Matches

What a pattern matches, apart from which of several ways is preferred: a relation between the place
where a match begins, what it reads, and the place where it ends, with one equivalence for each
way to build a pattern. A pattern occurs in a text just when it matches at some place of the text.
-/

namespace RuleCalendar

variable {p q : Pattern} {here there : Cursor} {ns : List Int}

namespace Cursor

/-- The whole text around a place. -/
def text (here : Cursor) : List Char := here.behind.reverse ++ here.ahead

/-- The text leads from one place to another. -/
structure Reads (here : Cursor) (s : List Char) (there : Cursor) : Prop where
  ahead : here.ahead = s ++ there.ahead
  behind : there.behind = s.reverse ++ here.behind

variable {s : List Char}

/-- An empty text leads from a place to itself. -/
theorem Reads.refl (here : Cursor) : here.Reads [] here := ⟨rfl, rfl⟩

/-- Two stretches of a text in a row are one stretch. -/
theorem Reads.trans {mid : Cursor} {l r : List Char} (hl : here.Reads l mid)
    (hr : mid.Reads r there) : here.Reads (l ++ r) there where
  ahead := by rw [hl.ahead, hr.ahead, List.append_assoc]
  behind := by rw [hr.behind, hl.behind, List.reverse_append, List.append_assoc]

/-- A stretch made of two parts has a place between them. -/
theorem Reads.exists_mid {l r : List Char} (h : here.Reads (l ++ r) there) :
    ∃ mid, here.Reads l mid ∧ mid.Reads r there := by
  refine ⟨⟨l.reverse ++ here.behind, r ++ there.ahead⟩, ⟨?_, rfl⟩, ⟨rfl, ?_⟩⟩
  · rw [h.ahead, List.append_assoc]
  · rw [h.behind, List.reverse_append, List.append_assoc]

/-- Two places that a stretch leads between are in one text. -/
theorem Reads.text_eq (h : here.Reads s there) : there.text = here.text := by
  simp [text, h.ahead, h.behind]

/-- What is read on the way is a part of the text. -/
theorem Reads.isInfix (h : here.Reads s there) : s <:+: here.text :=
  ⟨here.behind.reverse, there.ahead, by rw [text, h.ahead, List.append_assoc]⟩

/-- An empty stretch leads to no other place. -/
theorem Reads.eq (h : here.Reads [] there) : there = here := by
  obtain ⟨hahead, hbehind⟩ := h
  cases here
  cases there
  simp_all

/-- The next character leads to the place after it. -/
theorem reads_cons {c : Char} {behind ahead : List Char} :
    (⟨behind, c :: ahead⟩ : Cursor).Reads [c] ⟨c :: behind, ahead⟩ := ⟨rfl, rfl⟩

/-- A text is skipped if it leads to the place after it. -/
theorem skip?_eq_some : here.skip? s = some there ↔ here.Reads s there := by
  induction s generalizing here with
  | nil =>
    simp only [skip?, Option.some.injEq]
    exact ⟨fun h ↦ h ▸ .refl here, fun h ↦ h.eq.symm⟩
  | cons c s ih =>
    obtain ⟨behind, ahead⟩ := here
    cases ahead with
    | nil =>
      simp only [skip?, reduceCtorEq, false_iff]
      intro h
      cases h.ahead
    | cons d ahead =>
      by_cases hcd : c = d
      · subst hcd
        rw [skip?, if_pos rfl, ih]
        constructor
        · exact fun h ↦ reads_cons.trans h
        · rintro ⟨hahead, hbehind⟩
          exact ⟨by simpa using hahead, by simpa using hbehind⟩
      · rw [skip?, if_neg hcd]
        simp only [reduceCtorEq, false_iff]
        intro h
        exact hcd (List.head_eq_of_cons_eq h.ahead).symm

private theorem mem_numbers_zero {value least : Nat} {r : Nat × Cursor} :
    r ∈ here.numbers value least 0 ↔ least = 0 ∧ r = (value, here) := by
  rw [numbers]
  split <;> simp [*]

/-- Only the next character leads anywhere by itself. -/
theorem reads_singleton {c d : Char} {behind ahead : List Char} :
    (⟨behind, c :: ahead⟩ : Cursor).Reads [d] there ↔ d = c ∧ there = ⟨c :: behind, ahead⟩ := by
  constructor
  · rintro ⟨hahead, hbehind⟩
    obtain ⟨rfl, rfl⟩ := List.cons_eq_cons.mp hahead
    cases there
    exact ⟨rfl, congrArg (Cursor.mk · _) hbehind⟩
  · rintro ⟨rfl, rfl⟩
    exact reads_cons

private theorem mem_numbers_succ {value least most : Nat} {r : Nat × Cursor} :
    r ∈ here.numbers value least (most + 1) ↔
      (∃ c d mid, here.Reads [c] mid ∧ Text.digitValue? c = some d ∧
        r ∈ mid.numbers (10 * value + d) (least - 1) most) ∨ least = 0 ∧ r = (value, here) := by
  have hstay : r ∈ (if least = 0 then [(value, here)] else []) ↔ least = 0 ∧ r = (value, here) := by
    split <;> simp [*]
  obtain ⟨behind, ahead⟩ := here
  cases ahead with
  | nil =>
    have hnil (c : Char) (mid : Cursor) : ¬ (⟨behind, []⟩ : Cursor).Reads [c] mid := by
      intro h
      cases h.ahead
    simp [numbers, hstay, hnil]
  | cons c ahead =>
    simp only [numbers, List.mem_append, hstay, reads_singleton, and_assoc, exists_and_left,
      exists_eq_left]
    cases Text.digitValue? c <;> simp

/-- A number is written with digits ahead of the place, as many as may be read. -/
theorem mem_numbers_iff {value least most : Nat} {r : Nat × Cursor} :
    r ∈ here.numbers value least most ↔
      ∃ ds, here.Reads ds r.2 ∧ (∀ c ∈ ds, Text.isDigit c = true) ∧
        (least ≤ ds.length ∧ ds.length ≤ most) ∧ r.1 = Text.digitsValue value ds := by
  induction most generalizing value least here with
  | zero =>
    rw [mem_numbers_zero]
    constructor
    · rintro ⟨rfl, rfl⟩
      exact ⟨[], .refl here, nofun, ⟨Nat.le_refl 0, Nat.le_refl 0⟩, rfl⟩
    · rintro ⟨ds, hread, -, ⟨hleast, hmost⟩, hvalue⟩
      obtain rfl : ds = [] := List.eq_nil_of_length_eq_zero (Nat.le_zero.mp hmost)
      exact ⟨Nat.le_zero.mp hleast, Prod.ext hvalue hread.eq⟩
  | succ most ih =>
    rw [mem_numbers_succ]
    simp only [ih]
    constructor
    · rintro (⟨c, d, mid, hc, hd, ds, hread, hdigits, hlength, hvalue⟩ | ⟨rfl, rfl⟩)
      · refine ⟨c :: ds, hc.trans hread, ?_, ?_, ?_⟩
        · exact List.forall_mem_cons.mpr ⟨by rw [Text.isDigit, hd]; rfl, hdigits⟩
        · rw [List.length_cons]
          omega
        · rw [hvalue, Text.digitsValue, Text.digitsValue, List.foldl_cons, hd, Option.getD_some]
      · exact ⟨[], .refl _, nofun, ⟨Nat.le_refl 0, Nat.zero_le _⟩, rfl⟩
    · rintro ⟨ds, hread, hdigits, hlength, hvalue⟩
      cases ds with
      | nil => exact .inr ⟨Nat.le_zero.mp hlength.1, Prod.ext hvalue hread.eq⟩
      | cons c ds =>
        obtain ⟨mid, hc, hrest⟩ := Reads.exists_mid (l := [c]) hread
        obtain ⟨hdigit, hdigits⟩ := List.forall_mem_cons.mp hdigits
        obtain ⟨d, hd⟩ := Option.isSome_iff_exists.mp hdigit
        rw [List.length_cons] at hlength
        rw [Text.digitsValue, List.foldl_cons, hd, Option.getD_some] at hvalue
        exact .inl ⟨c, d, mid, hc, hd, ds, hrest, hdigits, by omega, hvalue⟩

end Cursor

namespace Pattern

/-- The pattern can match from one place to another and read the numbers. -/
def Matches (p : Pattern) (here : Cursor) (ns : List Int) (there : Cursor) : Prop :=
  (ns, there) ∈ p.run here

-- Each equivalence below is the equation of `run` for one way to build a pattern.
attribute [local simp] run

/-- A fixed text matches where it stands. -/
theorem matches_text {chars : List Char} :
    (text chars).Matches here ns there ↔ ns = [] ∧ here.Reads chars there := by
  rw [← Cursor.skip?_eq_some]
  simp only [Matches, run, List.mem_map, Option.mem_toList, Prod.mk.injEq]
  constructor
  · rintro ⟨e, he, rfl, rfl⟩
    exact ⟨rfl, he⟩
  · rintro ⟨rfl, h⟩
    exact ⟨there, h, rfl, rfl⟩

/-- A number matches digits, as many as it may have. -/
theorem matches_number {least most : Nat} :
    (number least most).Matches here ns there ↔
      ∃ ds, here.Reads ds there ∧ (∀ c ∈ ds, Text.isDigit c = true) ∧
        (least ≤ ds.length ∧ ds.length ≤ most) ∧ ns = [(Text.digitsValue 0 ds : Int)] := by
  simp only [Matches, run, List.mem_map, Prod.mk.injEq]
  constructor
  · rintro ⟨r, hr, rfl, rfl⟩
    obtain ⟨ds, hread, hdigits, hlength, hvalue⟩ := Cursor.mem_numbers_iff.mp hr
    exact ⟨ds, hread, hdigits, hlength, by rw [hvalue]⟩
  · rintro ⟨ds, hread, hdigits, hlength, rfl⟩
    exact ⟨(_, there), Cursor.mem_numbers_iff.mpr ⟨ds, hread, hdigits, hlength, rfl⟩, rfl, rfl⟩

/-- A number that is taken as read matches everywhere and reads no text. -/
theorem matches_reads {n : Int} : (reads n).Matches here ns there ↔ ns = [n] ∧ there = here := by
  simp [Matches]

/-- The edge of a word matches at such an edge and reads no text. -/
theorem matches_edge :
    edge.Matches here ns there ↔ here.atEdge = true ∧ ns = [] ∧ there = here := by
  rw [Matches, run]
  split <;> simp_all

/-- What may be missing matches what it is, or nothing. -/
theorem matches_optional :
    (optional p).Matches here ns there ↔ p.Matches here ns there ∨ ns = [] ∧ there = here := by
  simp [Matches]

/-- Either of two patterns matches what one of them does. -/
theorem matches_either :
    (either p q).Matches here ns there ↔ p.Matches here ns there ∨ q.Matches here ns there := by
  simp [Matches]

/-- Two patterns in a row match what the first does and then the second. -/
theorem matches_follow :
    (follow p q).Matches here ns there ↔
      ∃ ks mid ms, p.Matches here ks mid ∧ q.Matches mid ms there ∧ ns = ks ++ ms := by
  simp only [Matches, run, List.mem_flatMap, List.mem_map, Prod.mk.injEq]
  constructor
  · rintro ⟨m, hm, r, hr, rfl, rfl⟩
    exact ⟨m.1, m.2, r.1, hm, hr, rfl⟩
  · rintro ⟨ks, mid, ms, hp, hq, rfl⟩
    exact ⟨(ks, mid), hp, (ms, there), hq, rfl, rfl⟩

/-- A refusal of what comes next matches where the pattern that it refuses does not. -/
theorem matches_unlessAhead :
    (unlessAhead p).Matches here ns there ↔
      (p.run here).isEmpty = true ∧ ns = [] ∧ there = here := by
  rw [Matches, run]
  split <;> simp_all

/-- A refusal of what stands before matches where the text that it refuses does not end. -/
theorem matches_unlessBehind {chars : List Char} :
    (unlessBehind chars).Matches here ns there ↔
      chars.reverse.isPrefixOf here.behind = false ∧ ns = [] ∧ there = here := by
  rw [Matches, run]
  cases chars.reverse.isPrefixOf here.behind <;> simp

private theorem not_matches_never : ¬ never.Matches here ns there := by
  rw [never, matches_unlessAhead]
  rintro ⟨hempty, -⟩
  cases hempty

/-- One of several patterns matches what any of them does. -/
theorem matches_oneOf {ps : List Pattern} :
    (oneOf ps).Matches here ns there ↔ ∃ p ∈ ps, p.Matches here ns there := by
  induction ps using oneOf.induct with
  | case1 => simpa [oneOf] using not_matches_never
  | case2 p => simp [oneOf]
  | case3 p ps hps ih =>
    rw [oneOf, matches_either, ih]
    · simp
    · exact hps

/-- One of several texts matches where any of them stands. -/
theorem matches_oneOfTexts {texts : List String} :
    (oneOfTexts texts).Matches here ns there ↔ ns = [] ∧ ∃ t ∈ texts, here.Reads t.toList there := by
  rw [oneOfTexts, matches_oneOf]
  constructor
  · rintro ⟨p, hp, hmatch⟩
    obtain ⟨t, ht, rfl⟩ := List.mem_map.mp hp
    obtain ⟨hns, hread⟩ := matches_text.mp hmatch
    exact ⟨hns, t, ht, hread⟩
  · rintro ⟨hns, t, ht, hread⟩
    exact ⟨_, List.mem_map_of_mem ht, matches_text.mpr ⟨hns, hread⟩⟩

/-- A name matches where it stands, and its number is read. -/
theorem matches_name {names : List (String × Int)} :
    (name names).Matches here ns there ↔
      ∃ n ∈ names, ns = [n.2] ∧ here.Reads n.1.toList there := by
  have hentry (n : String × Int) :
      (follow (text n.1.toList) (reads n.2)).Matches here ns there ↔
        ns = [n.2] ∧ here.Reads n.1.toList there := by
    rw [matches_follow]
    constructor
    · rintro ⟨ks, mid, ms, htext, hreads, rfl⟩
      obtain ⟨rfl, hread⟩ := matches_text.mp htext
      obtain ⟨rfl, rfl⟩ := matches_reads.mp hreads
      exact ⟨rfl, hread⟩
    · rintro ⟨rfl, hread⟩
      exact ⟨[], there, [n.2], matches_text.mpr ⟨rfl, hread⟩, matches_reads.mpr ⟨rfl, rfl⟩, rfl⟩
  rw [name, matches_oneOf]
  constructor
  · rintro ⟨p, hp, hmatch⟩
    obtain ⟨n, hn, rfl⟩ := List.mem_map.mp hp
    exact ⟨n, hn, (hentry n).mp hmatch⟩
  · rintro ⟨n, hn, hread⟩
    exact ⟨_, List.mem_map_of_mem hn, (hentry n).mpr hread⟩

/-- A whole word matches what the pattern in it does, between two edges of words. -/
theorem matches_whole :
    (whole p).Matches here ns there ↔
      here.atEdge = true ∧ p.Matches here ns there ∧ there.atEdge = true := by
  apply matches_follow.trans
  constructor
  · rintro ⟨ks, mid, ms, hfirst, hlast, rfl⟩
    obtain ⟨js, start, ls, hedge, hp, rfl⟩ := matches_follow.mp hfirst
    obtain ⟨hstart, rfl, rfl⟩ := matches_edge.mp hedge
    obtain ⟨hend, rfl, rfl⟩ := matches_edge.mp hlast
    exact ⟨hstart, by simpa using hp, hend⟩
  · rintro ⟨hstart, hp, hend⟩
    have hfirst : (follow edge p).Matches here ns there :=
      matches_follow.mpr ⟨[], here, ns, matches_edge.mpr ⟨hstart, rfl, rfl⟩, hp, rfl⟩
    exact ⟨ns, there, [], hfirst, matches_edge.mpr ⟨hend, rfl, rfl⟩, (List.append_nil ns).symm⟩

/-- A match reads a stretch of the text. -/
theorem Matches.reads (h : p.Matches here ns there) : ∃ s, here.Reads s there := by
  induction p generalizing here ns there with
  | text chars => exact ⟨chars, (matches_text.mp h).2⟩
  | number least most =>
    obtain ⟨ds, hread, -⟩ := matches_number.mp h
    exact ⟨ds, hread⟩
  | reads n =>
    rw [(matches_reads.mp h).2]
    exact ⟨[], .refl here⟩
  | edge =>
    rw [(matches_edge.mp h).2.2]
    exact ⟨[], .refl here⟩
  | optional p ih =>
    cases matches_optional.mp h with
    | inl hp => exact ih hp
    | inr hstay =>
      rw [hstay.2]
      exact ⟨[], .refl here⟩
  | either p q ihp ihq =>
    cases matches_either.mp h with
    | inl hp => exact ihp hp
    | inr hq => exact ihq hq
  | follow p q ihp ihq =>
    obtain ⟨ks, mid, ms, hp, hq, -⟩ := matches_follow.mp h
    obtain ⟨l, hl⟩ := ihp hp
    obtain ⟨r, hr⟩ := ihq hq
    exact ⟨l ++ r, hl.trans hr⟩
  | unlessAhead p =>
    rw [(matches_unlessAhead.mp h).2.2]
    exact ⟨[], .refl here⟩
  | unlessBehind chars =>
    rw [(matches_unlessBehind.mp h).2.2]
    exact ⟨[], .refl here⟩

/-- A match begins and ends in one text. -/
theorem Matches.text_eq (h : p.Matches here ns there) : there.text = here.text := by
  obtain ⟨s, hs⟩ := h.reads
  exact hs.text_eq

/-! ### Occurrences -/

/-- A search looks at a place first, and then at those after it. -/
theorem searchFrom_cons (p : Pattern) (behind : List Char) (c : Char) (ahead : List Char) :
    p.searchFrom behind (c :: ahead) =
      ((p.run ⟨behind, c :: ahead⟩).head?.map (·.1)).or (p.searchFrom (c :: behind) ahead) := by
  rw [searchFrom]
  cases (p.run ⟨behind, c :: ahead⟩).head? <;> rfl

private theorem matches_of_head?_run (h : (p.run here).head?.map (·.1) = some ns) :
    ∃ there, p.Matches here ns there := by
  obtain ⟨m, hm, rfl⟩ := Option.map_eq_some_iff.mp h
  exact ⟨m.2, List.mem_of_head? hm⟩

private theorem head?_run_isSome (h : p.Matches here ns there) :
    ((p.run here).head?.map (·.1)).isSome = true := by
  rw [Option.isSome_map, List.isSome_head?]
  exact List.ne_nil_of_mem h

/-- What a search finds is read by a match at a place of the text. -/
theorem matches_of_searchFrom {behind s : List Char} (h : p.searchFrom behind s = some ns) :
    ∃ l r there, s = l ++ r ∧ p.Matches ⟨l.reverse ++ behind, r⟩ ns there := by
  induction s generalizing behind with
  | nil =>
    obtain ⟨there, hmatch⟩ := matches_of_head?_run h
    exact ⟨[], [], there, rfl, hmatch⟩
  | cons c s ih =>
    rw [searchFrom_cons, Option.or_eq_some_iff] at h
    cases h with
    | inl hhere =>
      obtain ⟨there, hmatch⟩ := matches_of_head?_run hhere
      exact ⟨[], c :: s, there, rfl, hmatch⟩
    | inr hlater =>
      obtain ⟨l, r, there, rfl, hmatch⟩ := ih hlater.2
      exact ⟨c :: l, r, there, rfl, by simpa using hmatch⟩

/-- A search finds something where the pattern matches at a place of the text. -/
theorem searchFrom_isSome {behind l r : List Char}
    (h : p.Matches ⟨l.reverse ++ behind, r⟩ ns there) :
    (p.searchFrom behind (l ++ r)).isSome = true := by
  induction l generalizing behind with
  | nil =>
    cases r with
    | nil => exact head?_run_isSome h
    | cons c r =>
      rw [List.nil_append, searchFrom_cons, Option.isSome_or, Bool.or_eq_true]
      exact .inl (head?_run_isSome h)
  | cons c l ih =>
    rw [List.cons_append, searchFrom_cons, Option.isSome_or, Bool.or_eq_true]
    exact .inr (ih (by simpa using h))

/-- What a search finds is read by a match in the text. -/
theorem matches_of_search {s : List Char} (h : p.search s = some ns) :
    ∃ here there, here.text = s ∧ p.Matches here ns there := by
  obtain ⟨l, r, there, hs, hmatch⟩ := matches_of_searchFrom h
  exact ⟨_, there, by simp [Cursor.text, hs], hmatch⟩

/-- A pattern occurs in a text just when it matches at a place of the text. -/
theorem occursIn_iff {s : List Char} :
    p.occursIn s = true ↔ ∃ here ns there, here.text = s ∧ p.Matches here ns there := by
  rw [occursIn, Option.isSome_iff_exists]
  constructor
  · rintro ⟨ns, h⟩
    obtain ⟨here, there, hs, hmatch⟩ := matches_of_search h
    exact ⟨here, ns, there, hs, hmatch⟩
  · rintro ⟨here, ns, there, rfl, h⟩
    have hplace : p.Matches ⟨here.behind.reverse.reverse ++ [], here.ahead⟩ ns there := by
      simpa using h
    exact Option.isSome_iff_exists.mp (searchFrom_isSome hplace)

end Pattern

end RuleCalendar
