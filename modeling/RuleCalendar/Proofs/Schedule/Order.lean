import Mathlib.Data.List.Basic
import RuleCalendar.Event
import RuleCalendar.Proofs.Date.Calendar

/-!
# The order of events

Events are sorted by date and those of one day keep their order. Main statements: this fixes the
sorted list, since two sorted lists with the same events of each day in the same order are equal;
hence sorting commutes with leaving events out and with changes that keep their dates.
-/

namespace RuleCalendar.Event

private theorem date_le_trans (e f g : Event) (hef : decide (e.date ≤ f.date) = true)
    (hfg : decide (f.date ≤ g.date) = true) : decide (e.date ≤ g.date) = true := by
  simp only [decide_eq_true_eq, Date.le_iff] at *
  omega

private theorem date_le_total (e f : Event) :
    (decide (e.date ≤ f.date) || decide (f.date ≤ e.date)) = true := by
  simp only [Bool.or_eq_true, decide_eq_true_eq, Date.le_iff]
  omega

/-- Sorting keeps the events. -/
theorem sortByDate_perm (events : List Event) : (sortByDate events).Perm events :=
  List.mergeSort_perm events _

/-- Sorting keeps the events. -/
theorem mem_sortByDate {e : Event} {events : List Event} : e ∈ sortByDate events ↔ e ∈ events :=
  (sortByDate_perm events).mem_iff

/-- Sorted events are none if there were none. -/
theorem sortByDate_eq_nil_iff {events : List Event} : sortByDate events = [] ↔ events = [] := by
  rw [← List.length_eq_zero_iff, (sortByDate_perm events).length_eq, List.length_eq_zero_iff]

/-- After sorting, dates never go back. -/
theorem sortByDate_sorted (events : List Event) :
    (sortByDate events).Pairwise fun e f ↦ e.date ≤ f.date :=
  (List.pairwise_mergeSort date_le_trans date_le_total events).imp fun h ↦ of_decide_eq_true h

/-- The events of one day keep their order. -/
theorem filter_date_sortByDate (events : List Event) (d : Date) :
    (sortByDate events).filter (·.date = d) = events.filter (·.date = d) := by
  have hties : (events.filter (·.date = d)).Pairwise fun e f ↦ decide (e.date ≤ f.date) = true := by
    rw [List.pairwise_filter]
    refine List.pairwise_of_forall fun e f he hf ↦ ?_
    rw [decide_eq_true_eq] at he hf ⊢
    rw [he, hf]
    exact Int.le_refl _
  have hsub : (events.filter (·.date = d)).Sublist (sortByDate events) :=
    List.sublist_mergeSort date_le_trans date_le_total hties List.filter_sublist
  have hsub' := hsub.filter (·.date = d)
  rw [List.filter_filter] at hsub'
  simp only [Bool.and_self] at hsub'
  exact (hsub'.eq_of_length ((sortByDate_perm events).filter _).length_eq.symm).symm

/-- What holds between any two events of one day, the first before the second, holds after sorting. -/
theorem pairwise_sortByDate {R : Event → Event → Prop} {events : List Event}
    (h : events.Pairwise fun e f ↦ e.date = f.date → R e f) :
    (sortByDate events).Pairwise fun e f ↦ e.date = f.date → R e f := by
  rw [List.pairwise_iff_forall_sublist] at h ⊢
  intro e f hsub hdate
  have hday := hsub.filter (·.date = f.date)
  have hboth : [e, f].filter (·.date = f.date) = [e, f] := by simp [hdate]
  rw [hboth, filter_date_sortByDate] at hday
  exact h (hday.trans List.filter_sublist) hdate

/-- Lists that hold the same events of each day hold the same events. -/
theorem perm_of_filter_date_eq {l₁ l₂ : List Event}
    (h : ∀ d, l₁.filter (·.date = d) = l₂.filter (·.date = d)) : l₁.Perm l₂ := by
  rw [List.perm_iff_count]
  intro e
  have hday := congrArg (List.count e) (h e.date)
  rwa [List.count_filter (by simp), List.count_filter (by simp)] at hday

/-- A list in the order of a key is fixed by the events of each key in their order. -/
theorem eq_of_filter_key_eq {κ : Type} [DecidableEq κ] {key : Event → κ} {le : κ → κ → Prop}
    (hanti : ∀ a b, le a b → le b a → a = b) {l₁ l₂ : List Event}
    (h₁ : l₁.Pairwise fun e f ↦ le (key e) (key f))
    (h₂ : l₂.Pairwise fun e f ↦ le (key e) (key f))
    (h : ∀ k, l₁.filter (key · = k) = l₂.filter (key · = k)) : l₁ = l₂ := by
  have hmem : ∀ e, e ∈ l₁ ↔ e ∈ l₂ := by
    intro e
    have he := congrArg (e ∈ ·) (h (key e))
    simpa using he
  induction l₁ generalizing l₂ with
  | nil =>
    symm
    exact List.eq_nil_iff_forall_not_mem.2 fun e he ↦ List.not_mem_nil ((hmem e).2 he)
  | cons e l₁ ih =>
    cases l₂ with
    | nil => exact absurd ((hmem e).1 List.mem_cons_self) List.not_mem_nil
    | cons f l₂ =>
      obtain ⟨hmin₁, htail₁⟩ := List.pairwise_cons.1 h₁
      obtain ⟨hmin₂, htail₂⟩ := List.pairwise_cons.1 h₂
      have hkey : key e = key f := by
        obtain rfl | he := List.mem_cons.1 ((hmem e).1 List.mem_cons_self)
        · rfl
        obtain rfl | hf := List.mem_cons.1 ((hmem f).2 List.mem_cons_self)
        · rfl
        exact hanti _ _ (hmin₁ f hf) (hmin₂ e he)
      have hhead := h (key e)
      rw [List.filter_cons_of_pos (by simp), List.filter_cons_of_pos (by simp [hkey])] at hhead
      obtain ⟨rfl, -⟩ := List.cons.inj hhead
      have htail : ∀ k, l₁.filter (key · = k) = l₂.filter (key · = k) := by
        intro k
        have hk := h k
        simp only [List.filter_cons] at hk
        split at hk
        · exact (List.cons.inj hk).2
        · exact hk
      rw [ih htail₁ htail₂ htail]
      intro x
      have hx := congrArg (x ∈ ·) (htail (key x))
      simpa using hx

/-- A sorted list is fixed by the events of each day in their order. -/
theorem eq_of_filter_date_eq {l₁ l₂ : List Event}
    (h₁ : l₁.Pairwise fun e f ↦ e.date ≤ f.date) (h₂ : l₂.Pairwise fun e f ↦ e.date ≤ f.date)
    (h : ∀ d, l₁.filter (·.date = d) = l₂.filter (·.date = d)) : l₁ = l₂ :=
  eq_of_filter_key_eq (fun _ _ hle hge ↦ Date.ext_number (Int.le_antisymm hle hge)) h₁ h₂ h

/-- Leaving events out before or after sorting is the same. -/
theorem filter_sortByDate (events : List Event) (p : Event → Bool) :
    (sortByDate events).filter p = sortByDate (events.filter p) := by
  refine eq_of_filter_date_eq ((sortByDate_sorted events).filter p)
    (sortByDate_sorted (events.filter p)) fun d ↦ ?_
  rw [List.filter_comm, filter_date_sortByDate, filter_date_sortByDate, List.filter_comm]

/-- Sorting leaves events that are sorted as they are. -/
theorem sortByDate_of_sorted {events : List Event}
    (h : events.Pairwise fun e f ↦ e.date ≤ f.date) : sortByDate events = events :=
  List.mergeSort_of_pairwise (h.imp fun hle ↦ decide_eq_true hle)

/-- A change that keeps the dates may be made before or after sorting. -/
theorem map_sortByDate (f : Event → Event) (events : List Event)
    (hf : ∀ e, (f e).date = e.date) : (sortByDate events).map f = sortByDate (events.map f) := by
  refine List.map_mergeSort fun e _ e' _ ↦ ?_
  rw [hf, hf]

end RuleCalendar.Event
