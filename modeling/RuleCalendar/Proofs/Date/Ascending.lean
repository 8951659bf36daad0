import Mathlib.Data.List.Sort
import Mathlib.Data.Set.Card
import RuleCalendar.Proofs.Date.Calendar

/-!
# Ascending lists of dates

A list of dates is described by a property: it holds the dates with the property, each once and in
order. Main statement: the place of a date in such a list is the number of dates with the property
before it.
-/

namespace RuleCalendar

/-- The list holds exactly the dates with a property, each once and in order. -/
structure AscendingListOf (ds : List Date) (p : Date → Prop) : Prop where
  ascending : ds.Pairwise (· < ·)
  mem_iff : ∀ d, d ∈ ds ↔ p d

/-- The number of dates with a property that come before a date. -/
noncomputable def rankAmong (p : Date → Prop) (d : Date) : Nat := {e | p e ∧ e < d}.ncard

namespace AscendingListOf

variable {ds : List Date} {p q : Date → Prop}

/-- An ascending list of the dates with a property is one for each equivalent property. -/
theorem congr (h : AscendingListOf ds p) (hpq : ∀ d, p d ↔ q d) : AscendingListOf ds q :=
  ⟨h.ascending, fun d ↦ (h.mem_iff d).trans (hpq d)⟩

/-- Leaving out dates by a test adds the test to the property. -/
theorem filter (h : AscendingListOf ds p) (f : Date → Bool) :
    AscendingListOf (ds.filter f) fun d ↦ p d ∧ f d = true := by
  refine ⟨h.ascending.filter f, fun d ↦ ?_⟩
  rw [List.mem_filter, h.mem_iff]

/-- The dates with a property have one ascending list. -/
theorem eq {es : List Date} (h : AscendingListOf ds p) (h' : AscendingListOf es p) : ds = es := by
  have hantisymm : Std.Antisymm (fun d e : Date ↦ d < e) :=
    ⟨fun _ _ hde hed ↦ absurd hed (Int.lt_asymm hde)⟩
  have hirrefl : Std.Irrefl (fun d e : Date ↦ d < e) := ⟨fun d ↦ Int.lt_irrefl d.number⟩
  exact h.ascending.eq_of_mem_iff h'.ascending fun d ↦ (h.mem_iff d).trans (h'.mem_iff d).symm

/-- The empty list is that of a property that no date has. -/
theorem nil (h : ∀ d, ¬p d) : AscendingListOf [] p :=
  ⟨.nil, fun d ↦ iff_of_false List.not_mem_nil (h d)⟩

/-- A date that may be missing makes a list of those that it can be. -/
theorem ofOption {o : Option Date} (h : ∀ d, o = some d ↔ p d) : AscendingListOf o.toList p := by
  cases o with
  | none => exact nil fun d hd ↦ nomatch (h d).2 hd
  | some e =>
    refine ⟨List.pairwise_singleton _ _, fun d ↦ ?_⟩
    rw [← h d, Option.toList_some, List.mem_singleton, Option.some.injEq, eq_comm]

/-- A list of one date is that of a property that only this date has. -/
theorem singleton {e : Date} (h : ∀ d, d = e ↔ p d) : AscendingListOf [e] p :=
  ofOption (o := some e) fun d ↦ by rw [Option.some.injEq, eq_comm, h]

/-- The least date with a property is the only one of its kind. -/
theorem least {e : Date} (he : p e) (hmin : ∀ d, p d → e ≤ d) :
    AscendingListOf [e] fun d ↦ p d ∧ ∀ d', p d' → d ≤ d' := by
  refine singleton fun d ↦ ⟨?_, fun ⟨hd, hle⟩ ↦ ?_⟩
  · rintro rfl
    exact ⟨he, hmin⟩
  · exact Date.ext_number (Int.le_antisymm (hle e he) (hmin d hd))

/-- The greatest date with a property is the only one of its kind. -/
theorem greatest {e : Date} (he : p e) (hmax : ∀ d, p d → d ≤ e) :
    AscendingListOf [e] fun d ↦ p d ∧ ∀ d', p d' → d' ≤ d := by
  refine singleton fun d ↦ ⟨?_, fun ⟨hd, hle⟩ ↦ ?_⟩
  · rintro rfl
    exact ⟨he, hmax⟩
  · exact Date.ext_number (Int.le_antisymm (hmax d hd) (hle e he))

private theorem lt_getElem_iff (h : ds.Pairwise (· < ·)) {n : Nat} (hn : n < ds.length)
    (e : Date) : e ∈ ds ∧ e < ds[n] ↔ e ∈ ds.take n := by
  have hlt := List.pairwise_iff_getElem.1 h
  rw [List.mem_take_iff_getElem]
  constructor
  · rintro ⟨he, hen⟩
    obtain ⟨i, hi, rfl⟩ := List.mem_iff_getElem.1 he
    refine ⟨i, ?_, rfl⟩
    by_contra hni
    obtain hin | hin : i = n ∨ n < i := by omega
    · subst hin
      exact absurd hen (Int.lt_irrefl _)
    · exact absurd (hlt n i hn hi hin) (Int.lt_asymm hen)
  · rintro ⟨i, hi, rfl⟩
    exact ⟨List.getElem_mem _, hlt i n _ hn (by omega)⟩

private theorem rankAmong_getElem (h : AscendingListOf ds p) {n : Nat} (hn : n < ds.length) :
    rankAmong p ds[n] = n := by
  have hset : {e | p e ∧ e < ds[n]} = ↑(ds.take n).toFinset := by
    ext e
    rw [Set.mem_ofPred_eq, ← h.mem_iff, lt_getElem_iff h.ascending hn, List.coe_toFinset,
      Set.mem_ofPred_eq]
  have hnodup : (ds.take n).Nodup :=
    (h.ascending.imp fun hab ↦ by rintro rfl; exact absurd hab (Int.lt_irrefl _)).sublist
      (List.take_sublist n ds)
  rw [rankAmong, hset, Set.ncard_coe_finset, List.toFinset_card_of_nodup hnodup,
    List.length_take]
  omega

/-- The date at a place of the list is the one with as many dates of the list before it. -/
theorem getElem?_eq_some_iff (h : AscendingListOf ds p) {n : Nat} {d : Date} :
    ds[n]? = some d ↔ p d ∧ rankAmong p d = n := by
  rw [List.getElem?_eq_some_iff]
  constructor
  · rintro ⟨hn, rfl⟩
    exact ⟨(h.mem_iff _).1 (List.getElem_mem hn), rankAmong_getElem h hn⟩
  · rintro ⟨hd, rfl⟩
    obtain ⟨i, hi, rfl⟩ := List.mem_iff_getElem.1 ((h.mem_iff d).2 hd)
    rw [rankAmong_getElem h hi]
    exact ⟨hi, rfl⟩

/-- The last date of the list is the greatest date with the property. -/
theorem getLast?_eq_some_iff (h : AscendingListOf ds p) {d : Date} :
    ds.getLast? = some d ↔ p d ∧ ∀ e, p e → e ≤ d := by
  constructor
  · intro hlast
    obtain ⟨init, rfl⟩ := List.getLast?_eq_some_iff.1 hlast
    refine ⟨(h.mem_iff d).1 (by simp), fun e he ↦ ?_⟩
    obtain hinit | hd := List.mem_append.1 ((h.mem_iff e).2 he)
    · exact Int.le_of_lt ((List.pairwise_append.1 h.ascending).2.2 e hinit d (by simp))
    · rw [List.mem_singleton.1 hd]
      exact Int.le_refl _
  · rintro ⟨hd, hmax⟩
    cases hlast : ds.getLast? with
    | none =>
      rw [List.getLast?_eq_none_iff] at hlast
      exact absurd ((h.mem_iff d).2 hd) (by simp [hlast])
    | some e =>
      obtain ⟨init, rfl⟩ := List.getLast?_eq_some_iff.1 hlast
      obtain hinit | he := List.mem_append.1 ((h.mem_iff d).2 hd)
      · have hlt := (List.pairwise_append.1 h.ascending).2.2 d hinit e (by simp)
        exact absurd hlt (Int.not_lt.2 (hmax e ((h.mem_iff e).1 (by simp))))
      · rw [List.mem_singleton.1 he]

end AscendingListOf

end RuleCalendar
