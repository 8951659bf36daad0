import RuleCalendar.Text.Split

/-!
# Plain scalars of YAML

What an unquoted scalar is taken for by YAML 1.1: nothing, a truth value, an integer in one of
several bases, a number with a fraction, a date or a time, or else the text itself. Underscores may
stand between digits, and a colon separates places of base 60. The writer asks the same question: a
text needs quotes if it would be taken for something else.
-/

namespace RuleCalendar.Yaml

/-- What a plain scalar is taken for. -/
inductive PlainKind where
  /-- The text itself. -/
  | text
  /-- No value. -/
  | null
  /-- A truth value. -/
  | truth
  /-- An integer. -/
  | integer
  /-- A number with a fraction. -/
  | real
  /-- A date or a time. -/
  | time
  /-- The key that merges another mapping. -/
  | merge
  /-- The key of a default value. -/
  | default
  deriving DecidableEq, Repr

/-- Whether a character is an ASCII digit. -/
def isDecimal (c : Char) : Bool := '0' ≤ c && c ≤ '9'

/-- Whether a character is an ASCII digit or an underscore. -/
def isGroupedDecimal (c : Char) : Bool := isDecimal c || c = '_'

/-- The value of a hexadecimal digit. -/
def hexValue? (c : Char) : Option Nat :=
  if isDecimal c then some (c.toNat - 48)
  else if 'a' ≤ c ∧ c ≤ 'f' then some (c.toNat - 87)
  else if 'A' ≤ c ∧ c ≤ 'F' then some (c.toNat - 55)
  else none

/-- Whether a text is not empty and has only characters of a kind. -/
def isRun (p : Char → Bool) (s : List Char) : Bool := !s.isEmpty && s.all p

/-- Whether a text begins with a minus, and what follows its sign. -/
def splitSign : List Char → Bool × List Char
  | '-' :: rest => (true, rest)
  | '+' :: rest => (false, rest)
  | rest => (false, rest)

/-- What follows a character at the start of a text. -/
def after? (c : Char) : List Char → Option (List Char)
  | d :: rest => if c = d then some rest else none
  | [] => none

/-- The number that ASCII digits stand for. -/
def decimalValue (digits : List Char) : Nat :=
  digits.foldl (fun n c ↦ 10 * n + (c.toNat - 48)) 0

/-- The number of at least `least` and at most `most` ASCII digits at the start of a text, and the
rest. -/
def digitsFrom? (least most : Nat) (s : List Char) : Option (Nat × List Char) :=
  let run := (s.take most).takeWhile isDecimal
  if least ≤ run.length then some (decimalValue run, s.drop run.length) else none

/-- The year, the month and the day of a date. -/
structure DateParts where
  /-- The year. -/
  year : Nat
  /-- The month. -/
  month : Nat
  /-- The day. -/
  day : Nat

/-- The date at the start of a text, its month and its day of at least `least` digits, and the
rest. -/
def dateFrom? (least : Nat) (s : List Char) : Option (DateParts × List Char) := do
  let (year, s) ← digitsFrom? 4 4 s
  let (month, s) ← digitsFrom? least 2 (← after? '-' s)
  let (day, s) ← digitsFrom? least 2 (← after? '-' s)
  return (⟨year, month, day⟩, s)

/-- A time of day as it is written. -/
structure TimeParts where
  /-- The hour. -/
  hour : Nat
  /-- The minute. -/
  minute : Nat
  /-- The second. -/
  second : Nat
  /-- The digits after the point. -/
  fraction : List Char
  /-- The minutes by which it is ahead of universal time. -/
  offset : Option Int

/-- A distance from universal time that makes up a text, perhaps after blanks; none is given if the
text is empty. -/
def offsetOf? (s : List Char) : Option (Option Int) :=
  match s.dropWhile fun c ↦ c = ' ' || c = '\t' with
  | [] => if s.isEmpty then some none else none
  | ['Z'] => some (some 0)
  | sign :: rest => do
    if sign != '-' && sign != '+' then none
    let (hours, rest) ← digitsFrom? 1 2 rest
    let minutes ← match rest with
      | [] => some 0
      | ':' :: rest => do
        let (minutes, rest) ← digitsFrom? 2 2 rest
        if rest.isEmpty then some minutes else none
      | _ => none
    let size : Int := 60 * hours + minutes
    return some (if sign = '-' then -size else size)

/-- The time of day that makes up a text after what separates it from a date. -/
def timeOf? (s : List Char) : Option TimeParts := do
  let isBlank (c : Char) : Bool := c = ' ' || c = '\t'
  let clock ← match s with
    | 'T' :: rest | 't' :: rest => some rest
    | c :: _ => if isBlank c then some (s.dropWhile isBlank) else none
    | [] => none
  let (hour, s) ← digitsFrom? 1 2 clock
  let (minute, s) ← digitsFrom? 2 2 (← after? ':' s)
  let (second, s) ← digitsFrom? 2 2 (← after? ':' s)
  let (fraction, s) := match s with
    | '.' :: rest => (rest.takeWhile isDecimal, rest.dropWhile isDecimal)
    | rest => ([], rest)
  return ⟨hour, minute, second, fraction, ← offsetOf? s⟩

/-- The date and perhaps the time of day that make up a text, where a date alone has a month and a
day of at least `least` digits. -/
def dateTimeOf? (least : Nat) (s : List Char) : Option (DateParts × Option TimeParts) :=
  match dateFrom? least s with
  | some (date, []) => some (date, none)
  | _ => do
    let (date, rest) ← dateFrom? 1 s
    return (date, some (← timeOf? rest))

/-- Whether a text is a place of base 60 after the first. -/
def isSixtieth : List Char → Bool
  | [c] => isDecimal c
  | [c, d] => '0' ≤ c && c ≤ '5' && isDecimal d
  | _ => false

/-- Whether a text is an ASCII digit and then digits and underscores. -/
def isGroupedNumber : List Char → Bool
  | c :: rest => isDecimal c && rest.all isGroupedDecimal
  | [] => false

/-- Whether a text without a sign is taken for an integer. -/
def isNatural (s : List Char) : Bool :=
  match s with
  | '0' :: 'b' :: rest => isRun (fun c ↦ c = '0' || c = '1' || c = '_') rest
  | '0' :: 'x' :: rest => isRun (fun c ↦ (hexValue? c).isSome || c = '_') rest
  | '0' :: rest => rest.all fun c ↦ ('0' ≤ c && c ≤ '7') || c = '_'
  | _ =>
    match Text.splitAt ':' s with
    | first :: places => isGroupedNumber first && places.all isSixtieth
    | [] => false

/-- Whether a text is digits and underscores, and perhaps a signed power of ten. -/
def isFraction (s : List Char) : Bool :=
  match s.dropWhile isGroupedDecimal with
  | [] => true
  | e :: sign :: digits =>
    (e = 'e' || e = 'E') && (sign = '-' || sign = '+') && isRun isDecimal digits
  | _ => false

/-- Whether a text without a sign is digits with a point among them. -/
def isUnsignedReal (s : List Char) : Bool :=
  match Text.splitAt '.' s with
  | [whole, rest] =>
    match Text.splitAt ':' whole with
    | [] => false
    | [_] => isGroupedNumber whole && isFraction rest
    | first :: places => isGroupedNumber first && places.all isSixtieth && rest.all isGroupedDecimal
  | _ => false

/-- The words for more than all numbers, without a sign. -/
def infinityWords : List String := [".inf", ".Inf", ".INF"]

/-- The words for what is no number. -/
def notNumberWords : List String := [".nan", ".NaN", ".NAN"]

/-- Whether a text is taken for a number with a fraction. Without digits before the point it has no
sign. -/
def isReal (s : List Char) : Bool :=
  let unsigned := (splitSign s).2
  infinityWords.contains (String.ofList unsigned) || notNumberWords.contains (String.ofList s) ||
    match s with
    | '.' :: rest => rest.head?.any isDecimal && isFraction rest
    | _ => isUnsignedReal unsigned

/-- The words for no value. -/
def nullWords : List String := ["", "~", "null", "Null", "NULL"]

/-- The words for true. -/
def trueWords : List String := ["yes", "Yes", "YES", "true", "True", "TRUE", "on", "On", "ON"]

/-- The words for false. -/
def falseWords : List String := ["no", "No", "NO", "false", "False", "FALSE", "off", "Off", "OFF"]

/-- What a plain scalar is taken for. -/
def PlainKind.ofText (s : List Char) : PlainKind :=
  let word := String.ofList s
  if nullWords.contains word then .null
  else if trueWords.contains word || falseWords.contains word then .truth
  else if word = "<<" then .merge
  else if word = "=" then .default
  else if isReal s then .real
  else if isNatural (splitSign s).2 then .integer
  else if (dateTimeOf? 2 s).isSome then .time
  else .text

end RuleCalendar.Yaml
