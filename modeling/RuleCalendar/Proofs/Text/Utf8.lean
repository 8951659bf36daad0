import RuleCalendar.Text.Utf8

/-!
# Reading what is written as UTF-8

A character is written in one to four bytes, of which the first tells how many follow and between
which bounds the second lies. Main statement: the bytes of a text are read as the text.
-/

namespace RuleCalendar.Utf8

private theorem toNat_ofNat {n : Nat} (h : n < 256) : (UInt8.ofNat n).toNat = n := by
  rw [UInt8.toNat_ofNat']
  exact Nat.mod_eq_of_lt h

/-! ### First bytes -/

section

variable {v : Nat}

/-- The first of two bytes carries five bits. -/
theorem begin?_two (h : 0x80 ≤ v ∧ v ≤ 0x7FF) :
    begin? (UInt8.ofNat (v / 64 % 32 + 192)) =
      some ⟨UInt8.ofNat (v / 64 % 32 + 192), 1, 0, 0x80, 0xBF, v / 64⟩ := by
  simp only [begin?, toNat_ofNat (n := v / 64 % 32 + 192) (by omega)]
  have hfive : v / 64 % 32 = v / 64 := by omega
  rw [if_pos (by omega), hfive, Nat.add_sub_cancel]

/-- The first of three bytes carries four bits; the bounds of the second leave out the surrogates and
what is written in two bytes. -/
theorem begin?_three (h : 0x800 ≤ v ∧ v ≤ 0xFFFF) (hscalar : v < 0xD800 ∨ 0xDFFF < v) :
    ∃ low high, begin? (UInt8.ofNat (v / 4096 % 16 + 224)) =
        some ⟨UInt8.ofNat (v / 4096 % 16 + 224), 1, 1, low, high, v / 4096⟩ ∧
      low ≤ v / 64 % 64 + 128 ∧ v / 64 % 64 + 128 ≤ high := by
  have hfour : v / 4096 % 16 = v / 4096 := by omega
  simp only [begin?, toNat_ofNat (n := v / 4096 % 16 + 224) (by omega)]
  rw [if_neg (by omega)]
  by_cases hfirst : v / 4096 = 0
  · refine ⟨0xA0, 0xBF, ?_, by omega, by omega⟩
    rw [if_pos (by omega), hfirst]
  by_cases hsurrogate : v / 4096 = 13
  · refine ⟨0x80, 0x9F, ?_, by omega, by omega⟩
    rw [if_neg (by omega), if_pos (by omega), hsurrogate]
  · refine ⟨0x80, 0xBF, ?_, by omega, by omega⟩
    rw [if_neg (by omega), if_neg (by omega), if_pos (by omega), hfour, Nat.add_sub_cancel]

/-- The first of four bytes carries three bits; the bounds of the second leave out what is written in
three bytes and what lies beyond the last code point. -/
theorem begin?_four (h : 0x10000 ≤ v ∧ v ≤ 0x10FFFF) :
    ∃ low high, begin? (UInt8.ofNat (v / 262144 % 8 + 240)) =
        some ⟨UInt8.ofNat (v / 262144 % 8 + 240), 1, 2, low, high, v / 262144⟩ ∧
      low ≤ v / 4096 % 64 + 128 ∧ v / 4096 % 64 + 128 ≤ high := by
  have hthree : v / 262144 % 8 = v / 262144 := by omega
  simp only [begin?, toNat_ofNat (n := v / 262144 % 8 + 240) (by omega)]
  rw [if_neg (by omega), if_neg (by omega), if_neg (by omega), if_neg (by omega)]
  by_cases hfirst : v / 262144 = 0
  · refine ⟨0x90, 0xBF, ?_, by omega, by omega⟩
    rw [if_pos (by omega), hfirst]
  by_cases hlast : v / 262144 = 4
  · refine ⟨0x80, 0x8F, ?_, by omega, by omega⟩
    rw [if_neg (by omega), if_neg (by omega), if_pos (by omega), hlast]
  · refine ⟨0x80, 0xBF, ?_, by omega, by omega⟩
    rw [if_neg (by omega), if_pos (by omega), hthree, Nat.add_sub_cancel]

end

/-! ### The bytes of a character -/

section

variable {place : Nat} {rest : List UInt8}

private theorem decodeFrom_ascii {n : Nat} (h : n ≤ 0x7F) :
    decodeFrom place none (UInt8.ofNat n :: rest) =
      (decodeFrom (place + 1) none rest).map (Char.ofNat n :: ·) := by
  rw [decodeFrom, toNat_ofNat (by omega), if_pos (by omega)]

/-- A first byte that is none of ASCII begins a character. -/
theorem decodeFrom_begin {n : Nat} {p : Pending} (h : 0x80 ≤ n ∧ n < 256)
    (hbegin : begin? (UInt8.ofNat n) = some p) :
    decodeFrom place none (UInt8.ofNat n :: rest) = decodeFrom (place + 1) (some p) rest := by
  rw [decodeFrom, toNat_ofNat h.2, if_neg (by omega), hbegin]

variable {first : UInt8} {taken low high code n : Nat}
    (hn : n < 64) (hlow : low ≤ n + 128) (hhigh : n + 128 ≤ high)
include hn hlow hhigh

/-- A byte that is not the last one adds six bits. -/
theorem decodeFrom_next {owed : Nat} :
    decodeFrom place (some ⟨first, taken, owed + 1, low, high, code⟩)
        (UInt8.ofNat (n + 128) :: rest) =
      decodeFrom (place + 1) (some ⟨first, taken + 1, owed, 0x80, 0xBF, code * 64 + n⟩) rest := by
  rw [decodeFrom, toNat_ofNat (by omega), if_pos ⟨hlow, hhigh⟩, Nat.add_sub_cancel]

/-- The last byte adds six bits and ends the character. -/
theorem decodeFrom_last :
    decodeFrom place (some ⟨first, taken, 0, low, high, code⟩) (UInt8.ofNat (n + 128) :: rest) =
      (decodeFrom (place + 1) none rest).map (Char.ofNat (code * 64 + n) :: ·) := by
  rw [decodeFrom, toNat_ofNat (by omega), if_pos ⟨hlow, hhigh⟩, Nat.add_sub_cancel]

end

/-- The bytes of a character are read as the character, whatever follows. -/
theorem decodeFrom_utf8EncodeChar (place : Nat) (c : Char) (rest : List UInt8) :
    ∃ next, decodeFrom place none (String.utf8EncodeChar c ++ rest) =
      (decodeFrom next none rest).map (c :: ·) := by
  have hvalid : c.val.toNat < 0xD800 ∨ 0xDFFF < c.val.toNat ∧ c.val.toNat < 0x110000 := c.valid
  have hc : Char.ofNat c.val.toNat = c := Char.ofNat_toNat c
  rw [String.utf8EncodeChar]
  generalize c.val.toNat = v at hvalid hc ⊢
  subst hc
  split
  · exact ⟨_, decodeFrom_ascii (by omega)⟩
  split
  · refine ⟨place + 1 + 1, ?_⟩
    have hcode : v / 64 * 64 + v % 64 = v := by omega
    rw [List.cons_append, List.cons_append, List.nil_append,
      decodeFrom_begin (by omega) (begin?_two (by omega)),
      decodeFrom_last (by omega) (by omega) (by omega), hcode]
  split
  · obtain ⟨low, high, hbegin, hlow, hhigh⟩ := begin?_three (v := v) (by omega) (by omega)
    refine ⟨place + 1 + 1 + 1, ?_⟩
    have hcode : (v / 4096 * 64 + v / 64 % 64) * 64 + v % 64 = v := by omega
    rw [List.cons_append, List.cons_append, List.cons_append, List.nil_append,
      decodeFrom_begin (by omega) hbegin, decodeFrom_next (by omega) hlow hhigh,
      decodeFrom_last (by omega) (by omega) (by omega), hcode]
  · obtain ⟨low, high, hbegin, hlow, hhigh⟩ := begin?_four (v := v) (by omega)
    refine ⟨place + 1 + 1 + 1 + 1, ?_⟩
    have hcode : ((v / 262144 * 64 + v / 4096 % 64) * 64 + v / 64 % 64) * 64 + v % 64 = v := by
      omega
    rw [List.cons_append, List.cons_append, List.cons_append, List.cons_append, List.nil_append,
      decodeFrom_begin (by omega) hbegin, decodeFrom_next (by omega) hlow hhigh,
      decodeFrom_next (by omega) (by omega) (by omega),
      decodeFrom_last (by omega) (by omega) (by omega), hcode]

private theorem decodeFrom_encode (place : Nat) (s : List Char) :
    decodeFrom place none (encode s) = .ok s := by
  induction s generalizing place with
  | nil => rfl
  | cons c s ih =>
    obtain ⟨next, hnext⟩ := decodeFrom_utf8EncodeChar place c (encode s)
    have hbytes : encode (c :: s) = String.utf8EncodeChar c ++ encode s := List.flatMap_cons
    rw [hbytes, hnext, ih]
    rfl

/-- The bytes of a text are read as the text. -/
theorem decode_encode (s : List Char) : decode (encode s) = .ok s := decodeFrom_encode 0 s

end RuleCalendar.Utf8
