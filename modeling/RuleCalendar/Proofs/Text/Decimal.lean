import RuleCalendar.Text.Digit
import RuleCalendar.Text.Layout
import RuleCalendar.Text.Split

/-!
# Decimals and their separators

Reading the decimal of a number gives the number back, and a decimal holds ASCII digits only. A text
written with a separator between parts without it splits into these parts.
-/

namespace RuleCalendar.Text

/-! ### Decimals -/

/-- A number in decimal is made of ASCII digits. -/
theorem isDigit_of_mem_decimal {n : Nat} {c : Char} (h : c ∈ decimal n) : c.isDigit = true :=
  Nat.isDigit_of_mem_toDigits (by decide) (by decide) h

/-- A number filled up with zeros is made of ASCII digits. -/
theorem isDigit_of_mem_zeroPadded {width n : Nat} {c : Char} (h : c ∈ zeroPadded width n) :
    c.isDigit = true := by
  obtain hzero | hdigit := List.mem_append.mp h
  · rw [List.eq_of_mem_replicate hzero]
    rfl
  · exact isDigit_of_mem_decimal hdigit

/-- An ASCII digit has its value as a digit. -/
theorem digitValue?_of_isDigit {c : Char} (h : c.isDigit = true) :
    digitValue? c = some (c.toNat - '0'.toNat) := by
  have hrange : 48 ≤ c.toNat ∧ c.toNat ≤ 57 := by
    simpa [Char.isDigit, UInt32.le_iff_toNat_le] using h
  simp only [digitValue?]
  rw [if_pos (by omega), if_pos (by simp; omega)]
  rfl

/-- An ASCII digit is a digit. -/
theorem isDigit_of_ascii {c : Char} (h : c.isDigit = true) : isDigit c = true := by
  rw [isDigit, digitValue?_of_isDigit h]
  rfl

private theorem digitsValue_eq {s : List Char} (h : ∀ c ∈ s, c.isDigit = true) (value : Nat) :
    digitsValue value s = Nat.ofDigitChars 10 s value := by
  induction s generalizing value with
  | nil => rfl
  | cons c s ih =>
    have hc := digitValue?_of_isDigit (h c List.mem_cons_self)
    rw [Nat.ofDigitChars_cons, ← ih fun d hd ↦ h d (List.mem_cons_of_mem c hd)]
    simp only [digitsValue, List.foldl_cons, hc, Option.getD_some]

/-- Reading the decimal of a number gives the number back. -/
theorem digitsValue_decimal (n : Nat) : digitsValue 0 (decimal n) = n := by
  rw [digitsValue_eq fun c hc ↦ isDigit_of_mem_decimal hc]
  exact Nat.ofDigitChars_ten_toDigits

private theorem digitsValue_append (value : Nat) (s t : List Char) :
    digitsValue value (s ++ t) = digitsValue (digitsValue value s) t := List.foldl_append

/-- Zeros before a decimal do not change the number that is read. -/
theorem digitsValue_zeroPadded (width n : Nat) : digitsValue 0 (zeroPadded width n) = n := by
  have hzeros : ∀ k, digitsValue 0 (List.replicate k '0') = 0 := by
    intro k
    induction k with
    | zero => rfl
    | succ k ih => exact ih
  rw [zeroPadded, digitsValue_append, hzeros, digitsValue_decimal]

/-- A number that fits a width fills it with zeros. -/
theorem length_zeroPadded {width n : Nat} (h : (decimal n).length ≤ width) :
    (zeroPadded width n).length = width := by
  simp only [zeroPadded, List.length_append, List.length_replicate]
  omega

/-- Decimals of two digits. -/
theorem length_decimal_le_two {n : Nat} (h : n ≤ 99) : (decimal n).length ≤ 2 :=
  (Nat.length_toDigits_le_iff (by decide) (by decide)).mpr (by omega)

/-- A number up to 9999 has at most four digits. -/
theorem length_decimal_le_four {n : Nat} (h : n ≤ 9999) : (decimal n).length ≤ 4 :=
  (Nat.length_toDigits_le_iff (by decide) (by decide)).mpr (by omega)

/-- Decimals of four digits. -/
theorem length_decimal_eq_four {n : Nat} (h : 1000 ≤ n ∧ n ≤ 9999) : (decimal n).length = 4 := by
  have hle := length_decimal_le_four h.2
  have hlt : ¬(decimal n).length ≤ 3 := by
    rw [decimal, Nat.length_toDigits_le_iff (by decide) (by decide)]
    omega
  omega

/-- Different numbers have different decimals. -/
theorem decimal_inj {m n : Nat} (h : decimal m = decimal n) : m = n := by
  rw [← digitsValue_decimal m, h, digitsValue_decimal]

/-- A character that is no digit does not stand in decimals. -/
theorem not_mem_decimal {c : Char} (hc : c.isDigit = false) (n : Nat) : c ∉ decimal n := by
  intro h
  rw [isDigit_of_mem_decimal h] at hc
  cases hc

/-- A number filled up with zeros holds nothing but digits. -/
theorem not_mem_zeroPadded {c : Char} (hc : c.isDigit = false) (width n : Nat) :
    c ∉ zeroPadded width n := by
  intro h
  rw [isDigit_of_mem_zeroPadded h] at hc
  cases hc

/-- A character that is no digit and no minus sign does not stand in integers. -/
theorem not_mem_toString_int {c : Char} (hc : c.isDigit = false) (hminus : c ≠ '-') (n : Int) :
    c ∉ (toString n).toList := by
  cases n with
  | ofNat n =>
    have hn : (toString (Int.ofNat n)).toList = decimal n := Nat.toList_repr
    rw [hn]
    exact not_mem_decimal hc n
  | negSucc n =>
    have hn : (toString (Int.negSucc n)).toList = '-' :: decimal (n + 1) := by
      have happend : (toString (Int.negSucc n)).toList = "-".toList ++ (n + 1).repr.toList :=
        String.toList_append
      rw [happend, Nat.toList_repr]
      rfl
    rw [hn, List.mem_cons, not_or]
    exact ⟨hminus, not_mem_decimal hc _⟩

/-! ### Separators -/

private theorem splitAt_of_not_mem {mark : Char} {s : List Char} (h : mark ∉ s) :
    splitAt mark s = [s] := by
  induction s with
  | nil => rfl
  | cons c s ih =>
    have hc : c ≠ mark := fun he ↦ h (he ▸ List.mem_cons_self)
    rw [splitAt, if_neg hc, ih fun hs ↦ h (List.mem_cons_of_mem c hs)]

/-- The first part ends at the first separator. -/
theorem splitAt_append {mark : Char} {s : List Char} (h : mark ∉ s) (rest : List Char) :
    splitAt mark (s ++ mark :: rest) = s :: splitAt mark rest := by
  induction s with
  | nil => simp [splitAt]
  | cons c s ih =>
    have hc : c ≠ mark := fun he ↦ h (he ▸ List.mem_cons_self)
    rw [List.cons_append, splitAt, if_neg hc, ih fun hs ↦ h (List.mem_cons_of_mem c hs)]

/-- Parts that are joined with a separator that stands in none of them come back, and after them
those of the parts that follow. -/
theorem splitAt_intercalate_append {mark : Char} {ls : List (List Char)} (hne : ls ≠ [])
    (h : ∀ l ∈ ls, mark ∉ l) (more : List (List Char)) :
    splitAt mark ([mark].intercalate (ls ++ more)) =
      ls ++ if more = [] then [] else splitAt mark ([mark].intercalate more) := by
  induction ls with
  | nil => exact absurd rfl hne
  | cons l ls ih =>
    rw [List.forall_mem_cons] at h
    cases hmore : ls ++ more with
    | nil =>
      obtain ⟨rfl, rfl⟩ := List.append_eq_nil_iff.mp hmore
      rw [if_pos rfl, List.append_nil, List.intercalate_singleton]
      exact splitAt_of_not_mem h.1
    | cons k ks =>
      rw [List.cons_append, hmore, List.intercalate_cons_cons, List.append_assoc,
        List.singleton_append, splitAt_append h.1, ← hmore]
      by_cases hls : ls = []
      · rw [hls, List.nil_append] at hmore ⊢
        rw [hmore, if_neg (List.cons_ne_nil k ks), List.singleton_append]
      · rw [ih hls h.2, List.cons_append]

/-- Decimals come back from the text that joins them with a separator. -/
theorem splitAt_decimals {mark : Char} (hmark : mark.isDigit = false) (n : Nat) (ns : List Nat) :
    splitAt mark ([mark].intercalate ((n :: ns).map decimal)) = (n :: ns).map decimal := by
  have hparts : ∀ l ∈ (n :: ns).map decimal, mark ∉ l := by
    intro l hl
    obtain ⟨m, -, rfl⟩ := List.mem_map.mp hl
    exact not_mem_decimal hmark m
  have hsplit := splitAt_intercalate_append (by simp) hparts []
  rwa [if_pos rfl, List.append_nil] at hsplit

end RuleCalendar.Text
