/-!
# Padding

Widths count characters. A text that is wider than asked for is kept as it is.
-/

namespace RuleCalendar.Text

/-- A run of spaces. -/
def spaces (n : Nat) : List Char := List.replicate n ' '

/-- The text moved to the left of a field. -/
def padRight (width : Nat) (s : List Char) : List Char := s ++ spaces (width - s.length)

/-- The text moved to the right of a field. -/
def padLeft (width : Nat) (s : List Char) : List Char := spaces (width - s.length) ++ s

/-- The text in the middle of a field; a spare space goes to the left of a field of odd width and to
the right of one of even width. -/
def center (width : Nat) (s : List Char) : List Char :=
  let margin := width - s.length
  let left := margin / 2 + margin % 2 * (width % 2)
  spaces left ++ s ++ spaces (margin - left)

/-- The decimal digits of a natural number. -/
def decimal (n : Nat) : List Char := Nat.toDigits 10 n

/-- The decimal digits of an integer after its sign. -/
def integer (n : Int) : List Char :=
  if n < 0 then '-' :: decimal n.natAbs else decimal n.natAbs

/-- The decimal digits of a natural number, padded with zeros to a width. -/
def zeroPadded (width n : Nat) : List Char :=
  let digits := decimal n
  List.replicate (width - digits.length) '0' ++ digits

end RuleCalendar.Text
