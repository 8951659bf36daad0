import RuleCalendar.Number.Double
import RuleCalendar.Yaml.Fault
import RuleCalendar.Yaml.Plain

/-!
# Numbers of YAML

The integer or the number with a fraction that a text stands for once it is taken for one. A text
that is taken for a number by its tag may hold anything, so that each way of reading says what it
does not find.
-/

namespace RuleCalendar.Yaml

/-- The number that digits of a base stand for, if they are such digits. -/
def valueInBase? (base : Nat) (s : List Char) : Option Nat :=
  s.foldlM (fun n c ↦ do
    let d ← hexValue? c
    if d < base then some (base * n + d) else none) 0

/-- The letter that may begin the digits of a base, after a zero. -/
def baseLetter? : Nat → Option Char
  | 2 => some 'b'
  | 8 => some 'o'
  | 16 => some 'x'
  | _ => none

/-- The digits of a text after the zero and the letter of their base, if they are there. -/
def afterBaseLetter (base : Nat) : List Char → List Char
  | '0' :: c :: rest => if baseLetter? base = some c.toLower then rest else '0' :: c :: rest
  | s => s

/-- The integer that a text in a base that is a power of two stands for. -/
def readInBase (base : Nat) (s : List Char) : Except ReadError Int :=
  let (negative, digits) := splitSign (Text.stripMargins s)
  let digits := afterBaseLetter base digits
  match if digits.isEmpty then none else valueInBase? base digits with
  | some n => .ok (if negative then -(n : Int) else n)
  | none => .error (.badDigits base (String.ofList s))

/-- The integer that a text in base ten stands for. -/
def readInTens (s : List Char) : Except ReadError Int :=
  (Text.readInteger s).mapError fun
    | .malformed => .badDigits 10 (String.ofList s)
    | .tooLong digits => .tooManyDigits digits

/-- The integer that a text without underscores and a sign stands for. -/
def readUnsigned (s : List Char) : Except ReadError Int :=
  match s with
  | [] => .error .emptyNumber
  | ['0'] => .ok 0
  | '0' :: 'b' :: rest => readInBase 2 rest
  | '0' :: 'x' :: rest => readInBase 16 rest
  | '0' :: _ => readInBase 8 s
  | _ =>
    if s.contains ':' then do
      return (← (Text.splitAt ':' s).mapM readInTens).foldl (fun n place ↦ 60 * n + place) 0
    else readInTens s

/-- The integer that a text stands for. -/
def readInteger (s : List Char) : Except ReadError Int := do
  let s := s.filter (· ≠ '_')
  if s.isEmpty then throw .emptyNumber
  let (negative, rest) := splitSign s
  let n ← readUnsigned rest
  return if negative then -n else n

/-- The digits at the start of a power of ten with its sign, if they make it up. -/
def powerOf? (s : List Char) : Option Int :=
  let (negative, digits) := splitSign s
  if isRun isDecimal digits then
    some (if negative then -(decimalValue digits : Int) else decimalValue digits)
  else none

/-- The number that a text of digits with a point and a power of ten stands for, all of which but
one digit may be missing. -/
def unsignedReal? (s : List Char) : Option Double :=
  let whole := s.takeWhile isDecimal
  let (fraction, rest) := match s.dropWhile isDecimal with
    | '.' :: rest => (rest.takeWhile isDecimal, rest.dropWhile isDecimal)
    | rest => ([], rest)
  let digits := whole ++ fraction
  let power? := match rest with
    | [] => some 0
    | 'e' :: power => powerOf? power
    | _ => none
  if digits.isEmpty then none
  else power?.map fun power ↦
    Double.ofDecimal false (decimalValue digits) digits.length (power - fraction.length)

/-- The number that a text in lower case and without underscores stands for. -/
def readDecimal (s : List Char) : Except ReadError Double :=
  let (negative, rest) := splitSign (Text.stripMargins s)
  let word := String.ofList rest
  let found :=
    if word = "inf" ∨ word = "infinity" then some (.infinite false)
    else if word = "nan" then some .notNumber
    else unsignedReal? rest
  match found with
  | some x => .ok (if negative then x.negate else x)
  | none => .error (.badReal (String.ofList s))

/-- The sum of the places of base 60, the last first, when the first of them counts `unit`. -/
def sumSixtieths (unit : Nat) (sum : Double) : List Double → Except ReadError Double
  | [] => .ok sum
  | place :: places =>
    match Double.ofNat unit with
    | .infinite _ => .error .realTooLarge
    | x => sumSixtieths (60 * unit) (sum.addPositive (place.mulPositive x)) places

/-- The number with a fraction that a text stands for. -/
def readReal (s : List Char) : Except ReadError Double := do
  let s := (s.filter (· ≠ '_')).map Char.toLower
  if s.isEmpty then throw .emptyNumber
  let (negative, rest) := splitSign s
  let word := String.ofList rest
  let x ←
    if word = ".inf" then pure (.infinite false)
    else if word = ".nan" then pure .notNumber
    else if rest.contains ':' then do
      sumSixtieths 1 (Double.zero false) (← (Text.splitAt ':' rest).mapM readDecimal).reverse
    else readDecimal rest
  return if negative then x.negate else x

end RuleCalendar.Yaml
