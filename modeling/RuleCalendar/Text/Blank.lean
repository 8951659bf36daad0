/-!
# Blanks and line ends

Blanks are the Unicode white space and the four information separators U+001C to U+001F. Text is
held as its list of characters. Stripping removes blanks at the ends, collapsing also turns every
inner run of blanks into one space, and lines end at any of the Unicode line boundaries, of which a
carriage return with a line feed after it counts as one.
-/

namespace RuleCalendar.Text

/-- White space, the information separators included. -/
def isBlank (c : Char) : Bool :=
  let n := c.toNat
  (9 ≤ n && n ≤ 13) || (28 ≤ n && n ≤ 32) || n == 0x85 || n == 0xA0 || n == 0x1680 ||
    (0x2000 ≤ n && n ≤ 0x200A) || n == 0x2028 || n == 0x2029 || n == 0x202F || n == 0x205F ||
    n == 0x3000

/-- The characters after which a new line begins. -/
def isLineEnd (c : Char) : Bool :=
  let n := c.toNat
  (10 ≤ n && n ≤ 13) || (28 ≤ n && n ≤ 30) || n == 0x85 || n == 0x2028 || n == 0x2029

/-- Every character that ends a line is a blank. -/
theorem isBlank_of_isLineEnd {c : Char} (h : isLineEnd c = true) : isBlank c = true := by
  simp only [isLineEnd, isBlank, Bool.or_eq_true, Bool.and_eq_true, decide_eq_true_eq,
    beq_iff_eq] at h ⊢
  omega

/-- The text without blanks at its start. -/
def stripStart (s : List Char) : List Char := s.dropWhile isBlank

/-- The text without blanks at its end. -/
def stripEnd (s : List Char) : List Char := (s.reverse.dropWhile isBlank).reverse

/-- The text without blanks at either end. -/
def strip (s : List Char) : List Char := stripEnd (stripStart s)

/-- Whether a text holds nothing but blanks. -/
def allBlank (s : List Char) : Bool := s.all isBlank

/-- The maximal runs of characters that are not blank, in order. -/
def words : List Char → List (List Char)
  | [] => []
  | [c] => if isBlank c then [] else [[c]]
  | c :: d :: rest =>
    if isBlank c then words (d :: rest)
    else if isBlank d then [c] :: words (d :: rest)
    else match words (d :: rest) with
      | w :: ws => (c :: w) :: ws
      | [] => [[c]]

/-- The words of a text with one space between neighbours. -/
def collapse (s : List Char) : List Char := [' '].intercalate (words s)

/-- The lines of a text without their ends; a boundary at the very end opens no further line. -/
def lines : List Char → List (List Char)
  | [] => []
  | '\r' :: '\n' :: rest => [] :: lines rest
  | c :: rest =>
    if isLineEnd c then [] :: lines rest
    else match lines rest with
      | l :: ls => (c :: l) :: ls
      | [] => [[c]]

/-- The text with every carriage return, alone or before a line feed, read as a line feed. -/
def plainNewlines : List Char → List Char
  | [] => []
  | '\r' :: '\n' :: rest => '\n' :: plainNewlines rest
  | c :: rest => (if c = '\r' then '\n' else c) :: plainNewlines rest

/-- The text with no more than two line feeds in a row, when `seen` come before it. -/
def collapseBreaksFrom (seen : Nat) : List Char → List Char
  | [] => []
  | c :: rest =>
    if c != '\n' then c :: collapseBreaksFrom 0 rest
    else if seen < 2 then c :: collapseBreaksFrom (seen + 1) rest
    else collapseBreaksFrom seen rest

/-- The text with no more than two line feeds in a row. -/
def collapseBreaks (s : List Char) : List Char := collapseBreaksFrom 0 s

/-- The text without line feeds at its end. -/
def trimFinalBreaks (s : List Char) : List Char := (s.reverse.dropWhile (· = '\n')).reverse

/-- The text without line feeds at either end. -/
def trimBreaks (s : List Char) : List Char := trimFinalBreaks (s.dropWhile (· = '\n'))

end RuleCalendar.Text
