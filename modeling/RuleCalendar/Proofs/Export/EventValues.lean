import RuleCalendar.Proofs.Date.Year
import RuleCalendar.Proofs.Export.Uid

/-!
# Reading dates and UIDs

A date is eight digits, and a UID ends in a hyphen, a date and a domain. Main statements: from the
year 1000 on, the date of an event is read back from its text, and its id and its date from its UID.
-/

namespace RuleCalendar

/-- The date with the year, the month and the day of a date. -/
theorem Date.of_fields (d : Date) : Date.of d.year d.month d.day = .ok d := by
  obtain ⟨e, he, hn⟩ := Date.of_eq_ok d.year_bounds d.month_bounds d.day_bounds
  rw [he, Date.ext_number (hn.trans d.number_eq.symm)]

namespace ICalendar

/-- The date that eight digits stand for. -/
def readDate (s : List Char) : Option Date :=
  let number (t : List Char) : Int := Text.digitsValue 0 t
  if s.length = 8 ∧ s.all Char.isDigit = true then
    (Date.of (number (s.take 4)) (number ((s.drop 4).take 2)) (number (s.drop 6))).toOption
  else none

/-- The text before the last mark and the text after it. -/
def cutAtLast (mark : Char) : List Char → Option (List Char × List Char)
  | [] => none
  | c :: s =>
    match cutAtLast mark s with
    | some (l, r) => some (c :: l, r)
    | none => if c = mark then some ([], s) else none

/-- The id and the date that a UID is made of. -/
def readUid (s : List Char) : Option (List Char × Date) := do
  let (own, _) ← cutAtLast '@' s
  let (id, day) ← cutAtLast '-' own
  return (id, ← readDate day)

/-- A date from the year 1000 on is read back from its digits. -/
theorem readDate_compact {d : Date} (h : 1000 ≤ d.year) : readDate d.compact.toList = some d := by
  have hyear := d.year_bounds
  have hmonth := d.month_bounds
  have hday := d.day_bounds
  have hlength := lengthOfMonth_bounds d.year d.month
  have hy : (Date.digits 1 d.year).length = 4 := by
    have hfour := Text.length_decimal_eq_four (show 1000 ≤ d.year.toNat ∧ _ by omega)
    simp [Date.digits, Text.zeroPadded, hfour]
  have hm : (Date.digits 2 d.month).length = 2 :=
    Text.length_zeroPadded (Text.length_decimal_le_two (by omega))
  have hd : (Date.digits 2 d.day).length = 2 :=
    Text.length_zeroPadded (Text.length_decimal_le_two (by omega))
  have hvalue : ∀ width (n : Int), 0 ≤ n →
      (Text.digitsValue 0 (Date.digits width n) : Int) = n := by
    intro width n hn
    rw [Date.digits, Text.digitsValue_zeroPadded, Int.toNat_of_nonneg hn]
  have hdigits : d.compact.toList.all Char.isDigit = true := by
    rw [List.all_eq_true]
    intro c hc
    by_contra hdigit
    exact not_mem_compact (by simpa using hdigit) d hc
  have hparts : d.compact.toList =
      Date.digits 1 d.year ++ (Date.digits 2 d.month ++ Date.digits 2 d.day) := by
    rw [Date.compact, String.toList_ofList, List.append_assoc]
  have height : d.compact.toList.length = 8 := by
    rw [hparts, List.length_append, List.length_append, hy, hm, hd]
  have hlast : (Date.digits 1 d.year ++ (Date.digits 2 d.month ++ Date.digits 2 d.day)).drop 6 =
      Date.digits 2 d.day := by
    rw [← List.append_assoc]
    exact List.drop_left' (by rw [List.length_append, hy, hm])
  simp only [readDate, height, hdigits, and_self, if_true]
  rw [hparts, hlast, List.take_left' hy, List.drop_left' hy, List.take_left' hm, hvalue, hvalue,
    hvalue, d.of_fields]
  · rfl
  all_goals omega

private theorem cutAtLast_append {mark : Char} {t : List Char} (h : mark ∉ t) (s : List Char) :
    cutAtLast mark (s ++ mark :: t) = some (s, t) := by
  have hnone : ∀ u : List Char, mark ∉ u → cutAtLast mark u = none := by
    intro u hu
    induction u with
    | nil => rfl
    | cons c u ih =>
      rw [List.mem_cons, not_or] at hu
      rw [cutAtLast, ih hu.2]
      exact if_neg fun hc ↦ hu.1 hc.symm
  induction s with
  | nil =>
    rw [List.nil_append, cutAtLast, hnone t h]
    exact if_pos rfl
  | cons c s ih => rw [List.cons_append, cutAtLast, ih]

/-- The id and the date of an event are read back from its UID. -/
theorem readUid_uid {domain : String} (hdomain : '@' ∉ domain.toList) {e : Event}
    (h : 1000 ≤ e.date.year) : readUid (uid domain e) = some (e.id.toList, e.date) := by
  have hown : cutAtLast '@' (uid domain e) =
      some (e.id.toList ++ '-' :: e.date.compact.toList, domain.toList) :=
    cutAtLast_append hdomain _
  have hday : cutAtLast '-' (e.id.toList ++ '-' :: e.date.compact.toList) =
      some (e.id.toList, e.date.compact.toList) :=
    cutAtLast_append (not_mem_compact rfl e.date) _
  simp only [readUid, hown, hday, readDate_compact h, Option.bind_eq_bind, Option.bind_some,
    Option.pure_def]

end ICalendar

end RuleCalendar
