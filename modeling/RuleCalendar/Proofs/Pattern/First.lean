import Mathlib.Data.List.Infix
import RuleCalendar.Proofs.Pattern.Places
import RuleCalendar.Proofs.Text.Decimal

/-!
# The way to match that is wanted most

A search gives what is read on the most wanted way at the first place that has one. Main statements:
this way is put together from the most wanted ways of the parts of a pattern, a number being read to
its last digit; and a pattern occurs in no text that lacks what each of its ways needs.
-/

namespace RuleCalendar

variable {p q : Pattern} {here mid there : Cursor} {ks ms ns : List Int} {s : List Char}

/-! ### Numbers -/

/-- No digit stands ahead of the place. -/
def Cursor.AfterNumber (here : Cursor) : Prop :=
  ∀ c, here.ahead.head? = some c → Text.digitValue? c = none

/-- The longest of the numbers at a place is the one with all the digits there. -/
theorem Cursor.head?_numbers {value least most : Nat} (hread : here.Reads s there)
    (hdigits : ∀ c ∈ s, c.isDigit = true) (hleast : least ≤ s.length) (hmost : s.length ≤ most)
    (hstop : there.AfterNumber) :
    (here.numbers value least most).head? = some (Text.digitsValue value s, there) := by
  induction s generalizing here value least most with
  | nil =>
    obtain rfl : least = 0 := Nat.le_zero.mp hleast
    obtain rfl := hread.eq
    cases most with
    | zero => rfl
    | succ most =>
      obtain ⟨behind, ahead⟩ := there
      cases ahead with
      | nil => rfl
      | cons c ahead =>
        rw [numbers, hstop c rfl]
        rfl
  | cons c s ih =>
    obtain ⟨behind, ahead⟩ := here
    obtain rfl : ahead = c :: (s ++ there.ahead) := hread.ahead
    have hrest : (⟨c :: behind, s ++ there.ahead⟩ : Cursor).Reads s there :=
      ⟨rfl, by rw [hread.behind, List.reverse_cons, List.append_assoc, List.singleton_append]⟩
    cases most with
    | zero => cases hmost
    | succ most =>
      have hc := Text.digitValue?_of_isDigit (hdigits c List.mem_cons_self)
      rw [List.length_cons] at hleast hmost
      have hmore (value' : Nat) : (numbers value' (least - 1) most _).head? = _ :=
        ih hrest (fun d hd ↦ hdigits d (List.mem_cons_of_mem c hd)) (by omega) (by omega)
      rw [numbers]
      simp only [hc, List.head?_append, hmore]
      simp [Text.digitsValue, hc]

namespace Pattern

/-! ### Preferred ways -/

/-- The way to match at a place that is wanted most reads the numbers and ends there. -/
def Prefers (p : Pattern) (here : Cursor) (ns : List Int) (there : Cursor) : Prop :=
  (p.run here).head? = some (ns, there)

/-- A fixed text is read where it stands. -/
theorem prefers_text {chars : List Char} (h : here.Reads chars there) :
    (text chars).Prefers here [] there := by
  rw [Prefers, run, Cursor.skip?_eq_some.mpr h]
  rfl

/-- A number is read to its last digit. -/
theorem prefers_number {least most : Nat} (hread : here.Reads s there)
    (hdigits : ∀ c ∈ s, c.isDigit = true) (hlength : least ≤ s.length ∧ s.length ≤ most)
    (hstop : there.AfterNumber) :
    (number least most).Prefers here [(Text.digitsValue 0 s : Int)] there := by
  rw [Prefers, run, List.head?_map,
    Cursor.head?_numbers hread hdigits hlength.1 hlength.2 hstop]
  rfl

private theorem prefers_edge (h : here.atEdge = true) : edge.Prefers here [] here := by
  rw [Prefers, run, if_pos h]
  rfl

/-- What may be missing is read if it is there. -/
theorem Prefers.optional (h : p.Prefers here ns there) :
    (Pattern.optional p).Prefers here ns there := by
  rw [Prefers, run, List.head?_append, h]
  rfl

/-- What may be missing and is not there reads nothing. -/
theorem prefers_optional_of_run_eq_nil (h : p.run here = []) :
    (Pattern.optional p).Prefers here [] here := by
  rw [Prefers, run, h]
  rfl

private theorem Prefers.either_left (h : p.Prefers here ns there) :
    (either p q).Prefers here ns there := by
  rw [Prefers, run, List.head?_append, h]
  rfl

private theorem Prefers.either_right (hp : p.run here = []) (hq : q.Prefers here ns there) :
    (either p q).Prefers here ns there := by
  rw [Prefers, run, hp]
  exact hq

/-- Two patterns in a row are read each in the way that is wanted most. -/
theorem Prefers.follow (hp : p.Prefers here ks mid) (hq : q.Prefers mid ms there) :
    (p ++ q).Prefers here (ks ++ ms) there := by
  obtain ⟨rest, hrun⟩ := List.head?_eq_some_iff.mp hp
  have hfollow : (p ++ q).run here = (p.run here).flatMap fun m ↦
      (q.run m.2).map fun r ↦ (m.1 ++ r.1, r.2) := rfl
  rw [Prefers, hfollow, hrun, List.flatMap_cons, List.head?_append, List.head?_map, hq]
  rfl

/-- A whole word is read as the pattern in it, if words have their edges at its ends. -/
theorem Prefers.whole (hstart : here.atEdge = true) (h : p.Prefers here ns there)
    (hend : there.atEdge = true) : (Pattern.whole p).Prefers here ns there := by
  have hboth := ((prefers_edge hstart).follow h).follow (prefers_edge hend)
  rwa [List.nil_append, List.append_nil] at hboth

/-- Whether no text of a list begins with another one. -/
def PrefixFree (texts : List String) : Prop :=
  ∀ t ∈ texts, ∀ t' ∈ texts, t.toList <+: t'.toList → t = t'

instance (texts : List String) : Decidable (PrefixFree texts) :=
  inferInstanceAs (Decidable (∀ t ∈ texts, ∀ t' ∈ texts, t.toList <+: t'.toList → t = t'))

/-- Of texts that do not begin with each other, the only one that stands at the place is read. -/
theorem prefers_oneOfTexts {texts : List String} (hfree : PrefixFree texts) {t : String}
    (ht : t ∈ texts) (hread : here.Reads t.toList there) :
    (oneOfTexts texts).Prefers here [] there := by
  have hothers : ∀ t' ∈ texts, t' ≠ t → (text t'.toList).run here = [] := by
    intro t' ht' hne
    rw [List.eq_nil_iff_forall_not_mem]
    rintro ⟨ns, there'⟩ hmem
    have hread' := (matches_text.mp hmem).2
    have hprefix : t'.toList <+: here.ahead := ⟨_, hread'.ahead.symm⟩
    cases List.prefix_or_prefix_of_prefix hprefix ⟨_, hread.ahead.symm⟩ with
    | inl h => exact hne (hfree t' ht' t ht h)
    | inr h => exact hne (hfree t ht t' ht' h).symm
  clear hfree
  rw [oneOfTexts]
  induction texts with
  | nil => cases ht
  | cons t₀ texts ih =>
    by_cases heq : t₀ = t
    · rw [heq, List.map_cons]
      cases texts with
      | nil => exact prefers_text hread
      | cons t₁ texts => exact (prefers_text hread).either_left
    · have hrest := (List.mem_cons.mp ht).resolve_left (Ne.symm heq)
      cases texts with
      | nil => cases hrest
      | cons t₁ texts =>
        refine .either_right (hothers t₀ List.mem_cons_self heq) (ih hrest ?_)
        intro t' ht' hne
        exact hothers t' (List.mem_cons_of_mem t₀ ht') hne

/-- A search gives what is read at the beginning of a text, if anything is. -/
theorem search_of_prefers (h : p.Prefers ⟨[], s⟩ ns there) : p.search s = some ns := by
  cases s with
  | nil =>
    rw [search, searchFrom, h]
    rfl
  | cons c s => rw [search, searchFrom_cons, h, Option.map_some, Option.some_or]

end Pattern

/-! ### The ends of a text -/

/-- A word begins at the beginning of a text that begins with a character of a word. -/
theorem Cursor.atEdge_start {l : List Char} (hread : (⟨[], s⟩ : Cursor).Reads l mid)
    (hl : l.head?.any Text.isWord = true) : (⟨[], s⟩ : Cursor).atEdge = true :=
  (hread.atEdge_start_iff hl).mpr rfl

/-- A word ends at the end of a text that ends with a character of a word. -/
theorem Cursor.atEdge_end {behind r : List Char} (hread : mid.Reads r ⟨behind, []⟩)
    (hr : r.getLast?.any Text.isWord = true) : (⟨behind, []⟩ : Cursor).atEdge = true :=
  (hread.atEdge_end_iff hr).mpr rfl

/-! ### Missing texts -/

/-- The text without its digits. -/
def Text.withoutDigits (s : List Char) : List Char := s.filter (!·.isDigit)

/-- Digits are left out of each part of a text. -/
theorem Text.withoutDigits_append (s t : List Char) :
    withoutDigits (s ++ t) = withoutDigits s ++ withoutDigits t := List.filter_append ..

/-- A character that is no digit is not left out. -/
theorem Text.withoutDigits_cons {c : Char} (hc : c.isDigit = false) (s : List Char) :
    withoutDigits (c :: s) = c :: withoutDigits s :=
  List.filter_cons_of_pos (by rw [hc]; rfl)

private theorem Text.withoutDigits_eq_self (h : s.any (·.isDigit) = false) : withoutDigits s = s := by
  rw [withoutDigits, List.filter_eq_self]
  intro c hc
  rw [List.any_eq_false] at h
  simpa using h c hc

/-- Without its digits, a part of a text is a part of the text without its digits. -/
theorem Text.isInfix_withoutDigits {t : List Char} (h : t <:+: s) :
    withoutDigits t <:+: withoutDigits s := h.filter _

namespace Pattern

/-- Whether each way to match needs a text without digits that is no part of another one. -/
def isMissingFrom (frame : List Char) : Pattern → Bool
  | text chars => !frame.tails.any (chars.isPrefixOf ·) && !chars.any (·.isDigit)
  | either p q => p.isMissingFrom frame && q.isMissingFrom frame
  | follow p q => p.isMissingFrom frame || q.isMissingFrom frame
  | _ => false

variable {frame : List Char}

private theorem not_matches_of_isMissingFrom (hframe : Text.withoutDigits here.text <:+: frame)
    (h : p.isMissingFrom frame = true) : ¬p.Matches here ns there := by
  induction p generalizing here ns there with
  | text chars =>
    rw [isMissingFrom, Bool.and_eq_true, Bool.not_eq_true', Bool.not_eq_true',
      List.any_eq_false] at h
    intro hmatch
    have hpart := Text.isInfix_withoutDigits (matches_text.mp hmatch).2.isInfix
    rw [Text.withoutDigits_eq_self h.2] at hpart
    obtain ⟨tail, hprefix, hsuffix⟩ := List.infix_iff_prefix_suffix.mp (hpart.trans hframe)
    exact h.1 tail ((List.mem_tails _ _).mpr hsuffix) (List.isPrefixOf_iff_prefix.mpr hprefix)
  | either p q ihp ihq =>
    rw [isMissingFrom, Bool.and_eq_true] at h
    intro hmatch
    cases matches_either.mp hmatch with
    | inl hp => exact ihp hframe h.1 hp
    | inr hq => exact ihq hframe h.2 hq
  | follow p q ihp ihq =>
    rw [isMissingFrom, Bool.or_eq_true] at h
    intro hmatch
    obtain ⟨ks, mid, ms, hp, hq, -⟩ := matches_follow.mp hmatch
    cases h with
    | inl hmissing => exact ihp hframe hmissing hp
    | inr hmissing =>
      rw [← hp.text_eq] at hframe
      exact ihq hframe hmissing hq
  | _ => cases h

/-- A pattern does not occur where a text that it needs is missing. -/
theorem search_eq_none_of_isMissingFrom (hframe : Text.withoutDigits s <:+: frame)
    (h : p.isMissingFrom frame = true) : p.search s = none := by
  cases hsearch : p.search s with
  | none => rfl
  | some ns =>
    obtain ⟨here, there, rfl, hmatch⟩ := matches_of_search hsearch
    exact absurd hmatch (not_matches_of_isMissingFrom hframe h)

end Pattern

end RuleCalendar
