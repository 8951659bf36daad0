import RuleCalendar.Proofs.Pattern.Numbers
import RuleCalendar.Rule.Reading

/-!
# The ranges of what is read

Weekdays, months, days and ranks that are read from a rule text lie in their ranges, whatever the
text. Main statement: so do the numbers of the place inside a month that a text names; a rank among
the working days is never that of the last, since a text that names the last working day is read as
that before ranks are looked at.
-/

namespace RuleCalendar

variable {s : List Char}

/-- As many numbers are read as each way to match a pattern reads. -/
theorem Pattern.length_of_search {p : Pattern} {count : Nat}
    (hcount : ∀ b ∈ p.readings, b.length = count) {ns : List Int} (h : p.search s = some ns) :
    ns.length = count := by
  obtain ⟨here, there, -, hmatch⟩ := matches_of_search h
  obtain ⟨b, hb, hwithin⟩ := hmatch.within
  rw [hwithin.length_eq, hcount b hb]

namespace Reading

private theorem isDayNumber_iff {n : Int} : isDayNumber n = true ↔ 1 ≤ n ∧ n ≤ 31 := by
  simp [isDayNumber]

/-- A weekday that is read is one of seven. -/
theorem weekday?_bounds {n : Int} (h : weekday? s = some n) : 0 ≤ n ∧ n ≤ 6 :=
  Pattern.bounds_of_first? (by decide) h

/-- A month that is read is one of twelve. -/
theorem month?_bounds {n : Int} (h : month? s = some n) : 1 ≤ n ∧ n ≤ 12 :=
  Pattern.bounds_of_first? (by decide) h

/-- A keyword stands for a day of a month. -/
theorem keywordDay?_bounds {n : Int} (h : keywordDay? s = some n) : 1 ≤ n ∧ n ≤ 31 := by
  have hkeywords : ∀ k ∈ Vocabulary.dayKeywords, 1 ≤ k.2 ∧ k.2 ≤ 31 := by decide
  obtain ⟨k, hk, rfl⟩ := Option.map_eq_some_iff.mp h
  exact hkeywords k (List.mem_of_find?_eq_some hk)

/-- A number that is taken as a day is one from 1 to 31. -/
theorem validDay?_bounds {p : Pattern} {n : Int} (h : validDay? p s = some n) :
    1 ≤ n ∧ n ≤ 31 :=
  isDayNumber_iff.mp (Option.filter_eq_some_iff.mp h).2

/-- A day that is read is one from 1 to 31. -/
theorem day?_bounds {n : Int} (h : day? s = some n) : 1 ≤ n ∧ n ≤ 31 := by
  simp only [day?, Option.orElse_eq_orElse, Option.orElse_eq_or, Option.or_eq_some_iff] at h
  obtain h | ⟨-, h | ⟨-, h⟩⟩ := h
  · exact validDay?_bounds h
  · exact keywordDay?_bounds h
  · exact validDay?_bounds h

/-- A day that is read beside a month is one from 1 to 31. -/
theorem monthDay?_bounds {n : Int} (h : monthDay? s = some n) : 1 ≤ n ∧ n ≤ 31 := by
  simp only [monthDay?, Option.orElse_eq_orElse, Option.orElse_eq_or, Option.or_eq_some_iff] at h
  obtain h | ⟨-, h | ⟨-, h⟩⟩ := h
  · exact validDay?_bounds h
  · exact validDay?_bounds h
  · exact day?_bounds h

/-- A bare number that is read as a day is one from 1 to 31. -/
theorem bareDay?_bounds {n : Int} (h : bareDay? s = some n) : 1 ≤ n ∧ n ≤ 31 := by
  obtain ⟨k, hk, rfl⟩ := Option.map_eq_some_iff.mp h
  have hmem := List.mem_range'_1.mp (List.mem_of_find?_eq_some hk)
  simp only [Int.ofNat_eq_natCast]
  omega

/-- A ranked weekday is the last or one of the first four on one of the seven weekdays. -/
theorem ordinalWeekday?_bounds {ordinal weekday : Int}
    (h : ordinalWeekday? s = some (ordinal, weekday)) :
    (-1 ≤ ordinal ∧ ordinal ≤ 4) ∧ 0 ≤ weekday ∧ weekday ≤ 6 := by
  simp only [ordinalWeekday?] at h
  split at h
  · next hsearch =>
    have hbounds : Vocabulary.ordinalWeekday.readsWithin [(-1, 4), (0, 6)] = true := by decide
    cases h
    cases Pattern.within_of_search hbounds hsearch with
    | cons hordinal hrest =>
      cases hrest with
      | cons hweekday _ => exact ⟨hordinal, hweekday⟩
  · cases h

/-- Where a weekday of a given rank occurs, it is read. -/
theorem ordinalWeekday?_isSome (h : Vocabulary.ordinalWeekday.occursIn s = true) :
    (ordinalWeekday? s).isSome = true := by
  have hbounds : Vocabulary.ordinalWeekday.readsWithin [(-1, 4), (0, 6)] = true := by decide
  obtain ⟨ns, hns⟩ := Option.isSome_iff_exists.mp h
  rw [ordinalWeekday?, hns]
  cases Pattern.within_of_search hbounds hns with
  | cons _ hrest =>
    cases hrest with
    | cons _ hnil =>
      cases hnil
      rfl

end Reading

/-- A working day of the rank that stands for the last is the last working day. -/
theorem Vocabulary.lastWorkingDay_of_ranked (h : rankedWorkingDay.first? s = some (-1)) :
    lastWorkingDay.occursIn s = true := by
  obtain ⟨ns, hns, hhead⟩ := Option.bind_eq_some_iff.mp h
  obtain ⟨here, there, hs, hmatch⟩ := Pattern.matches_of_search hns
  obtain ⟨hstart, hbody, hend⟩ := Pattern.matches_whole.mp hmatch
  obtain ⟨_, beforeDay, ls, hfront, hday, rfl⟩ := Pattern.matches_follow.mp hbody
  obtain ⟨_, afterSpace, ms, hranked, hworking, rfl⟩ := Pattern.matches_follow.mp hfront
  obtain ⟨_, afterRank, ks, hordinal, hspace, rfl⟩ := Pattern.matches_follow.mp hranked
  obtain ⟨rank, hrank, rfl, hname⟩ := Pattern.matches_name.mp hordinal
  obtain ⟨rfl, hgap⟩ := Pattern.matches_text.mp hspace
  have hlast : rank.1 = "last" := by
    have hranks : ∀ n ∈ [("second", 1), ("fourth", 3), ("first", 0), ("third", 2), ("fifth", 4),
        ("last", -1), ("1st", 0), ("2nd", 1), ("3rd", 2), ("4th", 3), ("5th", (4 : Int))],
        n.2 = -1 → n.1 = "last" := by decide
    exact hranks rank hrank (Option.some.inj hhead)
  rw [hlast] at hname
  have hread : here.Reads "last ".toList afterSpace := hname.trans hgap
  have hphrase := Pattern.matches_follow.mpr ⟨_, _, _, Pattern.matches_follow.mpr
    ⟨[], afterSpace, ms, Pattern.matches_text.mpr ⟨rfl, hread⟩, hworking, rfl⟩, hday, rfl⟩
  exact Pattern.occursIn_iff.mpr
    ⟨here, _, there, hs, Pattern.matches_whole.mpr ⟨hstart, hphrase, hend⟩⟩

/-- The numbers of a place lie in their ranges. -/
def Place.InRange : Place → Prop
  | .nthWorkingDay ordinal => 0 ≤ ordinal ∧ ordinal ≤ 98
  | .ordinalWeekday ordinal weekday => (-1 ≤ ordinal ∧ ordinal ≤ 4) ∧ 0 ≤ weekday ∧ weekday ≤ 6
  | .day n _ => 1 ≤ n ∧ n ≤ 31
  | .firstWorkingDay | .lastWorkingDay | .everyWorkingDay | .lastDay => True

namespace Reading

/-- A rank among the working days lies in its range. -/
theorem workingDay?_inRange {place : Place} (h : workingDay? s = some place) : place.InRange := by
  simp only [workingDay?] at h
  split at h
  · cases h
    exact trivial
  split at h
  · cases h
    exact trivial
  next hlast =>
  split at h
  · next n hn =>
    cases h
    obtain ⟨hnumber, hpositive⟩ := Option.filter_eq_some_iff.mp hn
    have hbounds : 0 ≤ n ∧ n ≤ 99 := Pattern.bounds_of_first? (by decide) hnumber
    have hone := of_decide_eq_true hpositive
    simp only [Place.InRange]
    omega
  split at h
  · next ordinal hordinal =>
    cases h
    have hbounds : -1 ≤ ordinal ∧ ordinal ≤ 4 :=
      Pattern.bounds_of_first? (by decide) hordinal
    have hne : ordinal ≠ -1 := by
      rintro rfl
      exact hlast (Vocabulary.lastWorkingDay_of_ranked hordinal)
    simp only [Place.InRange]
    omega
  split at h
  · cases h
    exact trivial
  · cases h

/-- The place that is read for the only date of a month has its numbers in their ranges, and it is
not all working days. -/
theorem place_inRange {dayOf : List Char → Option Int}
    (hday : ∀ n, dayOf s = some n → 1 ≤ n ∧ n ≤ 31) :
    (place dayOf s).InRange ∧ place dayOf s ≠ .everyWorkingDay := by
  rw [place]
  split
  · next found hfound =>
    obtain ⟨hworking, hne⟩ := Option.filter_eq_some_iff.mp hfound
    exact ⟨workingDay?_inRange hworking, of_decide_eq_true hne⟩
  · split
    · next ordinal weekday hpair => exact ⟨ordinalWeekday?_bounds hpair, by simp⟩
    · split
      · exact ⟨trivial, by simp⟩
      · refine ⟨?_, by simp⟩
        cases hn : dayOf s with
        | none => exact ⟨by decide, by decide⟩
        | some n => exact hday n hn

end Reading

end RuleCalendar
