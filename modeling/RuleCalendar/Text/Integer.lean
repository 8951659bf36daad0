import RuleCalendar.Text.Blank
import RuleCalendar.Text.Digit

/-!
# Reading integers

An integer is written as digits of any script with an optional sign. Single underscores may stand
between digits and white space at the ends. What is read from the first digit on decides how the
text is refused: a run of too many digits is told apart from a text that is no integer.
-/

namespace RuleCalendar.Text

/-- Why a text is read as no integer. -/
inductive IntegerFault where
  /-- It is not written like an integer. -/
  | malformed
  /-- It has more digits than are read. -/
  | tooLong (digits : Nat)
  deriving DecidableEq, Repr

/-- The most digits that an integer may be written with. -/
def mostDigits : Nat := 4300

/-- Whether underscores stand only between characters of another kind, one at a time. -/
def isGrouped : List Char → Bool
  | [] => true
  | ['_'] => false
  | '_' :: '_' :: _ => false
  | _ :: rest => isGrouped rest

/-- White space that may surround an integer: all blanks but the information separators. -/
def isMargin (c : Char) : Bool := isBlank c && !(28 ≤ c.toNat && c.toNat ≤ 31)

/-- The text without the white space that may surround an integer. -/
def stripMargins (s : List Char) : List Char :=
  ((s.dropWhile isMargin).reverse.dropWhile isMargin).reverse

/-- The digits of a text without a sign. -/
def readDigits (s : List Char) : Except IntegerFault (List Char) :=
  let isPart (c : Char) : Bool := isDigit c || c = '_'
  let run := s.takeWhile isPart
  let digits := run.filter isDigit
  if run.isEmpty || run.head? = some '_' || !isGrouped run then .error .malformed
  else if mostDigits < digits.length then .error (.tooLong digits.length)
  else if (s.dropWhile isPart).isEmpty then .ok digits
  else .error .malformed

/-- The natural number that a text of digits stands for. -/
def readNatural (s : List Char) : Except IntegerFault Nat := do
  return digitsValue 0 (← readDigits s)

/-- The integer that a text stands for. -/
def readInteger (s : List Char) : Except IntegerFault Int := do
  match stripMargins s with
  | '-' :: rest => return -((← readNatural rest : Nat) : Int)
  | '+' :: rest => return (← readNatural rest : Nat)
  | rest => return (← readNatural rest : Nat)

/-- What is said of a text with too many digits. -/
def tooLongMessage (digits : Nat) : String :=
  s!"Exceeds the limit ({mostDigits} digits) for integer string conversion: value has {digits} " ++
    "digits; use sys.set_int_max_str_digits() to increase the limit"

end RuleCalendar.Text
