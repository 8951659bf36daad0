/-!
# Doubles

Binary floating-point numbers of double precision: a mantissa of 53 bits at most and a power of two,
with a sign, or else an infinity, or what is no number. A fraction is rounded to the nearest double,
and of two equally near ones to that with the even mantissa; sums and products are rounded once.
-/

namespace RuleCalendar

/-- A number of double precision. -/
inductive Double where
  /-- The number `mantissa * 2 ^ exponent` with a sign. The mantissa has 53 bits, or fewer at the
  least exponent. -/
  | finite (negative : Bool) (mantissa : Nat) (exponent : Int)
  /-- More than all finite numbers, or less. -/
  | infinite (negative : Bool)
  /-- No number. -/
  | notNumber
  deriving DecidableEq, Repr

namespace Double

/-- The least power of two. -/
def leastExponent : Int := -1074

/-- The greatest power of two. -/
def greatestExponent : Int := 971

/-- The bits of a mantissa. -/
def precision : Nat := 53

/-- Zero with a sign. -/
def zero (negative : Bool) : Double := finite negative 0 leastExponent

/-- The fraction that is left of `numerator / denominator` after division by a power of two. -/
def scaled (numerator denominator : Nat) (exponent : Int) : Nat × Nat :=
  if 0 ≤ exponent then (numerator, denominator <<< exponent.toNat)
  else (numerator <<< (-exponent).toNat, denominator)

/-- The natural number next to a fraction, the even one of two. -/
def nearest (numerator denominator : Nat) : Nat :=
  let whole := numerator / denominator
  let rest := numerator % denominator
  if 2 * rest < denominator then whole
  else if denominator < 2 * rest then whole + 1
  else whole + whole % 2

/-- The power of two at which a positive fraction has a mantissa of 53 bits, or the least one. -/
def exponentFor (numerator denominator : Nat) : Int :=
  let size : Int := (numerator.log2 : Int) - denominator.log2
  let start := max (size - precision) leastExponent
  let (n, d) := scaled numerator denominator start
  if n / d < 1 <<< precision then start else start + 1

/-- The double next to a fraction. -/
def ofRatio (negative : Bool) (numerator denominator : Nat) : Double :=
  if numerator = 0 then zero negative
  else
    let exponent := exponentFor numerator denominator
    let (n, d) := scaled numerator denominator exponent
    let mantissa := nearest n d
    let (mantissa, exponent) :=
      if mantissa = 1 <<< precision then (mantissa / 2, exponent + 1) else (mantissa, exponent)
    if exponent ≤ greatestExponent then finite negative mantissa exponent else infinite negative

/-- How far the decimal point of a number may lie from its first digit before the number is infinite
or zero for certain. -/
def mostPlaces : Int := 400

/-- The double next to `digits * 10 ^ exponent`, where `digits` has `count` digits at most. -/
def ofDecimal (negative : Bool) (digits count : Nat) (exponent : Int) : Double :=
  if digits = 0 then zero negative
  else if mostPlaces < exponent then infinite negative
  else if exponent + count < -mostPlaces then zero negative
  else if 0 ≤ exponent then ofRatio negative (digits * Nat.pow 10 exponent.toNat) 1
  else ofRatio negative digits (Nat.pow 10 (-exponent).toNat)

/-- The mantissa times its power of two, as a fraction. -/
def magnitude (mantissa : Nat) (exponent : Int) : Nat × Nat :=
  if 0 ≤ exponent then (mantissa <<< exponent.toNat, 1)
  else (mantissa, 1 <<< (-exponent).toNat)

/-- Whether a double is neither zero nor its negative. -/
def isTruthy : Double → Bool
  | finite _ mantissa _ => mantissa != 0
  | infinite _ | notNumber => true

/-- The double with the other sign. -/
def negate : Double → Double
  | finite negative mantissa exponent => finite (!negative) mantissa exponent
  | infinite negative => infinite (!negative)
  | notNumber => notNumber

/-- The integer part of a finite number, towards zero. -/
def truncated (negative : Bool) (mantissa : Nat) (exponent : Int) : Int :=
  let (n, d) := magnitude mantissa exponent
  if negative then -((n / d : Nat) : Int) else (n / d : Nat)

/-- The integer that a double is, if it is one. -/
def integer? : Double → Option Int
  | finite negative mantissa exponent =>
    let (n, d) := magnitude mantissa exponent
    if n % d = 0 then some (truncated negative mantissa exponent) else none
  | infinite _ | notNumber => none

/-- The double next to a natural number. -/
def ofNat (n : Nat) : Double := ofRatio false n 1

/-- The double next to the sum of two doubles that are not negative. -/
def addPositive : Double → Double → Double
  | finite _ m e, finite _ m' e' =>
    let (n, d) := magnitude m e
    let (n', d') := magnitude m' e'
    ofRatio false (n * d' + n' * d) (d * d')
  | notNumber, _ | _, notNumber => notNumber
  | _, _ => infinite false

/-- The double next to the product of two doubles that are not negative. -/
def mulPositive : Double → Double → Double
  | finite _ m e, finite _ m' e' =>
    let (n, d) := magnitude m e
    let (n', d') := magnitude m' e'
    ofRatio false (n * n') (d * d')
  | infinite _, finite _ 0 _ | finite _ 0 _, infinite _ => notNumber
  | notNumber, _ | _, notNumber => notNumber
  | _, _ => infinite false

end Double

end RuleCalendar
