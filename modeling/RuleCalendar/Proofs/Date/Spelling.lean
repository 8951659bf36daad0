import RuleCalendar.Date.Names
import RuleCalendar.Proofs.Date.Calendar
import RuleCalendar.Proofs.Text.Decimal
import RuleCalendar.Proofs.RuleLine.Printed

/-!
# Spellings of dates

A date can be written in digits, with its year, or as a day of a named month. Main statements: the
ISO form is read back; each way to write a date is its own normal form, and so is, but for the case
of its letters, a named month and day in capitals or not.
-/

namespace RuleCalendar

namespace Date

/-! ### Digits -/

/-- A number in digits is made of ASCII digits. -/
theorem isDigit_of_mem_digits {width : Nat} {n : Int} {c : Char} (h : c ∈ digits width n) :
    c.isDigit = true :=
  Text.isDigit_of_mem_zeroPadded h

/-- Reading the digits of a number of a date gives the number back. -/
theorem digitsValue_digits (width : Nat) {n : Int} (hn : 0 ≤ n) :
    (Text.digitsValue 0 (digits width n) : Int) = n := by
  rw [digits, Text.digitsValue_zeroPadded, Int.toNat_of_nonneg hn]

/-- Digits are not longer than their number or their width asks for. -/
theorem length_digits {width most : Nat} {n : Int} (hwidth : width ≤ most)
    (hlength : (Text.decimal n.toNat).length ≤ most) :
    width ≤ (digits width n).length ∧ (digits width n).length ≤ most := by
  simp only [digits, Text.zeroPadded, List.length_append, List.length_replicate]
  omega

/-- A number in digits has one at least. -/
theorem digits_ne_nil (width : Nat) (n : Int) : digits width n ≠ [] := by
  rw [digits, Text.zeroPadded]
  exact List.append_ne_nil_of_right_ne_nil _ Nat.toDigits_ne_nil

/-- Digits of a width are taken off the beginning of a text. -/
theorem takeDigits?_digits {width : Nat} {n : Int} (hn : 0 ≤ n)
    (hlength : (digits width n).length = width) (rest : List Char) :
    takeDigits? width (digits width n ++ rest) = some (n, rest) := by
  have hall : (digits width n).all (·.isDigit) = true :=
    List.all_eq_true.mpr fun _ hc ↦ isDigit_of_mem_digits hc
  simp only [takeDigits?, List.take_left' hlength, List.drop_left' hlength, hlength, hall, and_self,
    if_true, digitsValue_digits width hn]

/-- A date in the ISO form is read back. -/
theorem fieldsOfIso?_iso (d : Date) : fieldsOfIso? d.iso.toList = some (d.year, d.month, d.day) := by
  have hyear := d.year_bounds
  have hmonth := d.month_bounds
  have hday := d.day_bounds
  have hlength := lengthOfMonth_bounds d.year d.month
  have hy : (digits 4 d.year).length = 4 :=
    Text.length_zeroPadded (Text.length_decimal_le_four (by omega))
  have hm : (digits 2 d.month).length = 2 :=
    Text.length_zeroPadded (Text.length_decimal_le_two (by omega))
  have hd : takeDigits? 2 (digits 2 d.day) = some (d.day, []) := by
    have hd' := takeDigits?_digits (by omega)
      (Text.length_zeroPadded (Text.length_decimal_le_two (n := d.day.toNat) (by omega))) []
    rwa [List.append_nil] at hd'
  rw [iso, String.toList_ofList, List.append_assoc, fieldsOfIso?,
    takeDigits?_digits (by omega) hy]
  simp only [List.cons_append]
  rw [takeDigits?_digits (by omega) hm]
  simp only [hd]

/-! ### Written forms -/

/-- Month, day and year between slashes, in two, two and four digits. -/
def slashed (d : Date) : String :=
  String.ofList (digits 2 d.month ++ '/' :: digits 2 d.day ++ '/' :: digits 4 d.year)

/-- The name of a date's month in lower case. -/
def monthWord (d : Date) : String := monthNames.getD (d.month.toNat - 1) ""

/-- The endings of ordinal numbers in digits. -/
def ordinalEndings : List String := ["st", "nd", "rd", "th"]

/-- A date's day and month with the month in words, in lower case: "march 4", "4th of march" and the
like, whichever the ending is, with or without a zero before a single digit. -/
def spellings (d : Date) : List (List Char) :=
  [digits 1 d.day, digits 2 d.day].flatMap fun day ↦
    (d.monthWord.toList ++ ' ' :: day) ::
      ordinalEndings.map fun ending ↦
        day ++ ending.toList ++ ' ' :: "of".toList ++ ' ' :: d.monthWord.toList

/-- A spelling of a date's day and month is a month and a day, or an ordinal number and a month. -/
theorem mem_spellings {d : Date} {s : List Char} (h : s ∈ d.spellings) :
    ∃ width ∈ [1, 2], s = d.monthWord.toList ++ ' ' :: digits width d.day ∨
      ∃ ending ∈ ordinalEndings, s = digits width d.day ++ ending.toList ++
        ' ' :: "of".toList ++ ' ' :: d.monthWord.toList := by
  obtain ⟨day, hday, hs⟩ := List.mem_flatMap.mp h
  have hwidth : ∃ width ∈ [1, 2], day = digits width d.day := by
    simpa [eq_comm] using hday
  obtain ⟨width, hwidth, rfl⟩ := hwidth
  refine ⟨width, hwidth, ?_⟩
  cases List.mem_cons.mp hs with
  | inl hfirst => exact .inl hfirst
  | inr hlast =>
    obtain ⟨ending, hending, rfl⟩ := List.mem_map.mp hlast
    exact .inr ⟨ending, hending, rfl⟩

/-- The names of the months with their numbers. -/
def monthNumbers : List (String × Int) := monthNames.zipIdx.map fun n ↦ (n.1, (n.2 : Int) + 1)

/-- The name of a date's month stands for its month. -/
theorem monthWord_mem_monthNumbers (d : Date) : (d.monthWord, d.month) ∈ monthNumbers := by
  have hcases := month_cases d.month_bounds
  rw [monthWord]
  generalize d.month = month at *
  rcases hcases with rfl | rfl | rfl | rfl | rfl | rfl | rfl | rfl | rfl | rfl | rfl | rfl <;>
    decide

/-- The name of a date's month is one of the twelve. -/
theorem monthWord_mem_monthNames (d : Date) : d.monthWord ∈ monthNames := by
  have hfirst : monthNumbers.map Prod.fst = monthNames := by decide
  rw [← hfirst]
  exact List.mem_map_of_mem d.monthWord_mem_monthNumbers

/-! ### Normal forms -/

/-- The characters of dates in digits. -/
def IsNumeric (c : Char) : Prop := c.isDigit = true ∨ c = '-' ∨ c = '/'

instance (c : Char) : Decidable (IsNumeric c) :=
  inferInstanceAs (Decidable (c.isDigit = true ∨ c = '-' ∨ c = '/'))

/-- Numeric characters are ASCII, part of words and in lower case. -/
theorem IsNumeric.plain {c : Char} (h : IsNumeric c) :
    c.toNat < 128 ∧ Text.isBlank c = false ∧ c.toLower = c := by
  have hascii : c.toNat < 128 := by
    rcases h with hdigit | rfl | rfl
    · have hle : c.toNat ≤ 57 := by
        rw [Char.isDigit, Bool.and_eq_true, decide_eq_true_eq, decide_eq_true_eq] at hdigit
        exact hdigit.2
      omega
    · decide
    · decide
  have hplain : ∀ n < 128, IsNumeric (Char.ofNat n) → Text.isBlank (Char.ofNat n) = false ∧
      (Char.ofNat n).toLower = Char.ofNat n := by
    decide
  exact ⟨hascii, Text.ascii_cases
    (p := fun c ↦ IsNumeric c → Text.isBlank c = false ∧ c.toLower = c) hplain hascii h⟩

/-- Digits with hyphens or slashes between them are their own normal form. -/
theorem normalForm_of_isNumeric {s : List Char} (hne : s ≠ []) (h : ∀ c ∈ s, IsNumeric c) :
    RuleLine.IsPart s ∧ Text.normalForm s = s := by
  have hascii : Text.IsAscii s := fun c hc ↦ (h c hc).plain.1
  have hspaced : Text.Spaced s := .word ⟨hne, fun c hc ↦ (h c hc).plain.2.1⟩
  refine ⟨.of_spaced hascii hspaced, ?_⟩
  rw [Text.normalForm_of_ascii hascii hspaced, List.map_congr_left fun c hc ↦ (h c hc).plain.2.2,
    List.map_id']

-- Three numbers of a date with a mark between them.
private theorem isNumeric_of_mem_joined {mark : Char} (hmark : IsNumeric mark) {u v w : Nat}
    {k m n : Int} {c : Char} (hc : c ∈ digits u k ++ mark :: digits v m ++ mark :: digits w n) :
    IsNumeric c := by
  simp only [List.mem_append, List.mem_cons] at hc
  rcases hc with (hc | rfl | hc) | rfl | hc
  · exact .inl (isDigit_of_mem_digits hc)
  · exact hmark
  · exact .inl (isDigit_of_mem_digits hc)
  · exact hmark
  · exact .inl (isDigit_of_mem_digits hc)

/-- An ISO date can stand in a rule line, and is its own normal form. -/
theorem normalForm_iso (d : Date) :
    RuleLine.IsPart d.iso.toList ∧ Text.normalForm d.iso.toList = d.iso.toList := by
  rw [iso, String.toList_ofList]
  exact normalForm_of_isNumeric (by simp) fun c hc ↦
    isNumeric_of_mem_joined (show IsNumeric '-' by decide) hc

/-- A date with slashes can stand in a rule line, and is its own normal form. -/
theorem normalForm_slashed (d : Date) :
    RuleLine.IsPart d.slashed.toList ∧ Text.normalForm d.slashed.toList = d.slashed.toList := by
  rw [slashed, String.toList_ofList]
  exact normalForm_of_isNumeric (by simp) fun c hc ↦
    isNumeric_of_mem_joined (show IsNumeric '/' by decide) hc

private theorem isOneWord_digits (width : Nat) (n : Int) :
    Text.IsAscii (digits width n) ∧ Text.IsOneWord (digits width n) := by
  have hplain {c : Char} (hc : c ∈ digits width n) :=
    IsNumeric.plain (.inl (isDigit_of_mem_digits hc))
  exact ⟨fun c hc ↦ (hplain hc).1, digits_ne_nil width n, fun c hc ↦ (hplain hc).2.1⟩

private theorem isOneWord_of_mem {word : String} (h : word ∈ "of" :: monthNames ++ ordinalEndings) :
    Text.IsAscii word.toList ∧ Text.IsOneWord word.toList := by
  have hall : ∀ word ∈ "of" :: monthNames ++ ordinalEndings,
      Text.IsAscii word.toList ∧ Text.IsOneWord word.toList := by
    decide
  exact hall word h

/-- A named month and day is made of words one space apart. -/
theorem spaced_of_mem_spellings {d : Date} {s : List Char} (h : s ∈ d.spellings) :
    Text.IsAscii s ∧ Text.Spaced s := by
  have hname := isOneWord_of_mem (List.mem_append_left _
    (List.mem_cons_of_mem "of" d.monthWord_mem_monthNames))
  have hof := isOneWord_of_mem (List.mem_append_left _ List.mem_cons_self)
  have hspace : ' '.toNat < 128 := by decide
  obtain ⟨width, -, rfl | ⟨ending, hending, rfl⟩⟩ := mem_spellings h
  · have hday := isOneWord_digits width d.day
    rw [Text.isAscii_append, Text.isAscii_cons]
    exact ⟨⟨hname.1, hspace, hday.1⟩, .space hname.2 (.word hday.2)⟩
  · have hday := isOneWord_digits width d.day
    have hend := isOneWord_of_mem (List.mem_append_right ("of" :: monthNames) hending)
    rw [List.append_assoc, List.cons_append]
    simp only [Text.isAscii_append, Text.isAscii_cons]
    exact ⟨⟨⟨hday.1, hend.1⟩, hspace, hof.1, hspace, hname.1⟩,
      .space (hday.2.append hend.2) (.space hof.2 (.word hname.2))⟩

/-- Whatever the case of its letters, a named month and day has as its normal form the one in lower
case. -/
theorem normalForm_of_spelling {d : Date} {t : List Char} (h : t.map Char.toLower ∈ d.spellings) :
    RuleLine.IsPart t ∧ Text.normalForm t = t.map Char.toLower := by
  obtain ⟨hascii, hspaced⟩ := spaced_of_mem_spellings h
  obtain ⟨hascii', hspaced'⟩ := Text.ascii_and_spaced_of_toLower hascii hspaced rfl
  exact ⟨.of_spaced hascii' hspaced', Text.normalForm_of_ascii hascii' hspaced'⟩

end Date

end RuleCalendar
