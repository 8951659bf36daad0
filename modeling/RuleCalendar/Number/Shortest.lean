import RuleCalendar.Number.Double
import RuleCalendar.Text.Layout

/-!
# Doubles as decimals

A double is written with the fewest decimal digits that read back as it, and of those the nearest to
it; of two equally near the even one. Up to ten to the sixteenth, and down to ten to the minus
fourth, the digits stand around a point, and otherwise before a power of ten.
-/

namespace RuleCalendar.Double

/-- How many digits tell any two doubles apart. -/
def mostDecimals : Nat := 17

/-- The fraction that is left of another after division by a power of ten. -/
def shifted (numerator denominator : Nat) (places : Int) : Nat × Nat :=
  if 0 ≤ places then (numerator, denominator * Nat.pow 10 places.toNat)
  else (numerator * Nat.pow 10 (-places).toNat, denominator)

/-- The least power of ten above a positive fraction, found from an estimate that is off by one at
most. -/
def placesAbove (numerator denominator : Nat) : Int :=
  let size : Int := (numerator.log2 : Int) - denominator.log2
  let guess : Int := size * 30103 / 100000 - 1
  let above (places : Int) : Bool :=
    let (n, d) := shifted numerator denominator places
    n < d
  if above guess then guess
  else if above (guess + 1) then guess + 1
  else if above (guess + 2) then guess + 2
  else guess + 3

/-- The natural numbers on both sides of a fraction, the nearest first. -/
def neighbours (numerator denominator : Nat) : List Nat :=
  let whole := numerator / denominator
  if nearest numerator denominator = whole then [whole, whole + 1] else [whole + 1, whole]

/-- The digits of a positive double, and the place of the point behind the first of them. -/
def shortest (mantissa : Nat) (exponent : Int) : List Char × Int :=
  let (numerator, denominator) := magnitude mantissa exponent
  let places := placesAbove numerator denominator
  let found := (List.range mostDecimals).findSome? fun (count : Nat) ↦
    let power := places - (count + 1)
    let (n, d) := shifted numerator denominator power
    ((neighbours n d).find? fun digits ↦
      ofDecimal false digits (count + 2) power = finite false mantissa exponent).map (·, power)
  let (digits, power) := found.getD (mantissa, exponent)
  let text := Text.decimal digits
  ((text.reverse.dropWhile (· = '0')).reverse, power + text.length)

/-- The least place of a point that is written. -/
def leastPoint : Int := -3

/-- The greatest place of a point that is written. -/
def greatestPoint : Int := 16

/-- Digits with a point among them, with zeros where digits are missing. -/
def positional (digits : List Char) (point : Int) : List Char :=
  if point ≤ 0 then '0' :: '.' :: (List.replicate (-point).toNat '0' ++ digits)
  else if digits.length ≤ point then
    digits ++ List.replicate (point.toNat - digits.length) '0' ++ ['.', '0']
  else digits.take point.toNat ++ '.' :: digits.drop point.toNat

/-- Digits with a point after the first, if there are more, and a power of ten. -/
def scientific (digits : List Char) (point : Int) : List Char :=
  let power := point - 1
  let front := match digits with
    | first :: second :: rest => first :: '.' :: second :: rest
    | digits => digits
  front ++ 'e' :: (if power < 0 then '-' else '+') :: Text.zeroPadded 2 power.natAbs

/-- The text of a positive double. -/
def positiveText (mantissa : Nat) (exponent : Int) : List Char :=
  let (digits, point) := shortest mantissa exponent
  if leastPoint ≤ point ∧ point ≤ greatestPoint then positional digits point
  else scientific digits point

/-- The text of a double. -/
def toText : Double → List Char
  | finite negative mantissa exponent =>
    (if negative then ['-'] else []) ++
      if mantissa = 0 then ['0', '.', '0'] else positiveText mantissa exponent
  | infinite negative => (if negative then ['-'] else []) ++ ['i', 'n', 'f']
  | notNumber => ['n', 'a', 'n']

end RuleCalendar.Double
