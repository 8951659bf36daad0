import RuleCalendar.Proofs.Date.Ascending
import RuleCalendar.Proofs.Success

/-!
# Walks through the calendar

Lists of dates are read off the list of their numbers. Main statement: a walk gives the dates that
lie a whole number of steps after its first and not after its last, in order. It needs a date one
step beyond them, so that a walk to the last date of the calendar fails.
-/

namespace RuleCalendar.Date

/-- A number of days leads from a date to the date of the sum, if there is one. -/
theorem addDays_ok {d : Date} {k : Int} (h : 1 ≤ d.number + k ∧ d.number + k ≤ 3652059) :
    ∃ e, d.addDays k = .ok e ∧ e.number = d.number + k :=
  ⟨_, dif_pos h, rfl⟩

/-- Dates at given distances from a date, all of them within the calendar. -/
theorem mapM_addDays (d : Date) (f : Nat → Int) (count : Nat)
    (h : ∀ i < count, 1 ≤ d.number + f i ∧ d.number + f i ≤ 3652059) :
    ∃ ds, (List.range count).mapM (fun i ↦ d.addDays (f i)) = .ok ds ∧
      ds.map number = (List.range count).map fun i ↦ d.number + f i :=
  exists_mapM_eq_ok fun i hi ↦ addDays_ok (h i (List.mem_range.mp hi))

variable {ds : List Date} {f : Nat → Int} {count : Nat}

private theorem mem_iff_number_mem {d : Date} : d ∈ ds ↔ d.number ∈ ds.map number := by
  rw [List.mem_map]
  constructor
  · exact fun h ↦ ⟨d, h, rfl⟩
  · rintro ⟨e, he, hn⟩
    exact ext_number hn ▸ he

/-- Dates with ascending numbers make an ascending list. -/
theorem ascendingListOf_numbers (h : ds.map number = (List.range count).map f)
    (hf : ∀ i j, i < j → f i < f j) :
    AscendingListOf ds fun d ↦ ∃ i < count, f i = d.number := by
  constructor
  · have hpairs : (ds.map number).Pairwise (· < ·) := by
      rw [h, List.pairwise_map]
      exact List.pairwise_lt_range.imp fun hij ↦ hf _ _ hij
    rw [List.pairwise_map] at hpairs
    exact hpairs
  · intro d
    rw [mem_iff_number_mem, h, List.mem_map]
    simp only [List.mem_range]

/-- The date at a place of a list is the one with the number at this place. -/
theorem getElem?_numbers (h : ds.map number = (List.range count).map f) (n : Nat) {d : Date} :
    ds[n]? = some d ↔ n < count ∧ f n = d.number := by
  have hnumber : ds[n]?.map number = ((List.range count)[n]?).map f := by
    rw [← List.getElem?_map, h, List.getElem?_map]
  constructor
  · intro hd
    rw [hd, Option.map_some] at hnumber
    obtain ⟨i, hi, hfi⟩ := Option.map_eq_some_iff.1 hnumber.symm
    obtain ⟨hn, rfl⟩ := List.getElem?_eq_some_iff.1 hi
    rw [List.length_range] at hn
    rw [List.getElem_range] at hfi
    exact ⟨hn, hfi⟩
  · rintro ⟨hn, hfn⟩
    rw [List.getElem?_range hn, Option.map_some] at hnumber
    obtain ⟨e, he, hen⟩ := Option.map_eq_some_iff.1 hnumber
    rw [he, ext_number (hen.trans hfn)]

/-! ### Walks -/

private theorem stepError?_eq_none {step : Int} (hstep : 0 < step) (hstep' : step ≤ 31) :
    stepError? step = none := by
  have hfits : fitsWord step = true := by simp [fitsWord]; omega
  have hlong : ¬longestStep < (step.natAbs : Int) := by simp only [longestStep]; omega
  rw [stepError?, hfits, if_neg (by decide), if_neg hlong]

/-- A walk in short steps gives the dates that lie a number of steps after the first and not after
the last, where the calendar has a date one step beyond. -/
theorem walk_ok (first last : Date) {step : Int} (hstep : 0 < step) (hstep' : step ≤ 31)
    (hlast : last.number + step ≤ 3652059) :
    ∃ ds, first.walk last step = .ok ds ∧
      ds.map number = (List.range ((last.number - first.number) / step + 1).toNat).map
        fun (i : Nat) ↦ first.number + i * step := by
  have hone := first.one_le
  generalize hcount : ((last.number - first.number) / step + 1).toNat = count
  have hreach : ∀ i ≤ count, 1 ≤ first.number + (i : Int) * step ∧
      first.number + (i : Int) * step ≤ 3652059 := by
    intro i hi
    have hnonneg : 0 ≤ (i : Int) * step := Int.mul_nonneg (by omega) (by omega)
    refine ⟨by omega, ?_⟩
    obtain rfl | hpos : i = 0 ∨ 0 < i := by omega
    · simpa using first.le_last
    · have hdiv : (i : Int) - 1 ≤ (last.number - first.number) / step := by omega
      have hmul := (Int.le_ediv_iff_mul_le hstep).1 hdiv
      rw [Int.sub_mul, Int.one_mul] at hmul
      omega
  obtain ⟨beyond, hbeyond, -⟩ := addDays_ok (hreach count (Nat.le_refl _))
  obtain ⟨ds, hds, hnumbers⟩ := mapM_addDays first (fun i ↦ i * step) count
    fun i hi ↦ hreach i (by omega)
  refine ⟨ds, ?_, hnumbers⟩
  simp only [walk, stepError?_eq_none hstep hstep', if_pos hstep, hcount]
  rw [hbeyond]
  exact hds

/-- A walk to the last date of the calendar looks beyond it. -/
theorem walk_eq_error (first : Date) {last : Date} {step : Int} (hstep : 0 < step)
    (hstep' : step ≤ 31) (hlast : last.number = 3652059) :
    first.walk last step = .error .beyondCalendar := by
  generalize hcount : ((last.number - first.number) / step + 1).toNat = count
  have hle := first.le_last
  have hbeyond : 3652059 < first.number + (count : Int) * step := by
    have hdiv : 0 ≤ (last.number - first.number) / step :=
      Int.ediv_nonneg (by omega) (by omega)
    have hreach := Int.lt_ediv_add_one_mul_self (last.number - first.number) hstep
    have hcount' : (count : Int) = (last.number - first.number) / step + 1 := by omega
    rw [hcount']
    omega
  have hadd : first.addDays (count * step) = .error .beyondCalendar := dif_neg (by omega)
  simp only [walk, stepError?_eq_none hstep hstep', if_pos hstep, hcount, hadd]
  rfl

/-- The dates of a walk are those between its ends that lie a whole number of steps after the
first. -/
theorem walk_ascending {first last : Date} {step : Int} (hstep : 0 < step)
    (h : ds.map number = (List.range ((last.number - first.number) / step + 1).toNat).map
      fun (i : Nat) ↦ first.number + i * step) :
    AscendingListOf ds fun d ↦ first ≤ d ∧ d ≤ last ∧ step ∣ d.number - first.number := by
  refine (ascendingListOf_numbers h fun i j hij ↦ ?_).congr fun d ↦ ?_
  · have := Int.mul_lt_mul_of_pos_right (Int.ofNat_lt.2 hij) hstep
    omega
  · simp only [le_iff]
    constructor
    · rintro ⟨i, hi, hn⟩
      have hdiv : (i : Int) ≤ (last.number - first.number) / step := by omega
      have hmul := (Int.le_ediv_iff_mul_le hstep).1 hdiv
      have hnonneg : 0 ≤ (i : Int) * step := Int.mul_nonneg (by omega) (by omega)
      exact ⟨by omega, by omega, i, by rw [Int.mul_comm]; omega⟩
    · rintro ⟨hfirst, hlast, k, hk⟩
      rw [Int.mul_comm] at hk
      have hnonneg : 0 ≤ k := by
        by_contra hneg
        have := Int.mul_neg_of_neg_of_pos (Int.not_le.1 hneg) hstep
        omega
      have hdiv : k ≤ (last.number - first.number) / step :=
        (Int.le_ediv_iff_mul_le hstep).2 (by omega)
      exact ⟨k.toNat, by omega, by rw [Int.toNat_of_nonneg hnonneg]; omega⟩

end RuleCalendar.Date
