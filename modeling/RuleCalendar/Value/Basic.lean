import RuleCalendar.Date.Timestamp
import RuleCalendar.Number.Double
import RuleCalendar.Rule.Basic
import RuleCalendar.Text.Integer

/-!
# Values

Settings files, requests and reports carry values of mixed kinds: scalars, lists and mappings. A
mapping keeps its entries in order and has scalars for keys.
-/

namespace RuleCalendar

/-- A value that has no parts. -/
inductive Scalar where
  /-- No value. -/
  | null
  /-- True or false. -/
  | bool (b : Bool)
  /-- An integer. -/
  | int (n : Int)
  /-- A number with a fraction. -/
  | double (x : Double)
  /-- A text. -/
  | text (s : String)
  /-- A date. -/
  | date (d : Date)
  /-- A date with a time of day. -/
  | time (t : Timestamp)
  /-- The family of a rule. -/
  | family (f : Family)
  deriving DecidableEq, Repr

/-- A scalar, a list of values, or a mapping from scalars to values. -/
inductive Value where
  /-- A value without parts. -/
  | scalar (s : Scalar)
  /-- Values in order. -/
  | list (items : List Value)
  /-- Values by key, in order. -/
  | mapping (entries : List (Scalar × Value))
  deriving Repr

/-- Why a value stands for no integer. -/
inductive NumberError where
  /-- The value is a text that is not written like an integer. -/
  | malformed (text : String)
  /-- The value is a text with more digits than are read. -/
  | tooLong (digits : Nat)
  /-- The value is more or less than all integers. -/
  | infinite
  /-- The value is no number. -/
  | notNumber
  /-- The value is of a kind that never stands for an integer. -/
  | wrongKind (kind : String)
  deriving DecidableEq, Repr

/-- The name of a scalar's kind. -/
def Scalar.kind : Scalar → String
  | null => "NoneType"
  | bool _ => "bool"
  | int _ => "int"
  | double _ => "float"
  | text _ => "str"
  | date _ => "date"
  | time _ => "datetime"
  | family _ => "RuleFamily"

/-- Whether a scalar is neither absent nor false, zero or empty. -/
def Scalar.isTruthy : Scalar → Bool
  | null => false
  | bool b => b
  | int n => n != 0
  | double x => x.isTruthy
  | text s => !s.isEmpty
  | date _ | time _ | family _ => true

namespace Value

/-- No value. -/
def null : Value := scalar .null

/-- A truth value. -/
def bool (b : Bool) : Value := scalar (.bool b)

/-- An integer. -/
def int (n : Int) : Value := scalar (.int n)

/-- A text. -/
def text (s : String) : Value := scalar (.text s)

/-- A mapping with texts for keys. -/
def record (entries : List (String × Value)) : Value :=
  mapping (entries.map fun e ↦ (.text e.1, e.2))

/-- The name of a value's kind. -/
def kind : Value → String
  | scalar s => s.kind
  | list _ => "list"
  | mapping _ => "dict"

/-- Whether a value is neither absent nor false, zero or empty. -/
def isTruthy : Value → Bool
  | scalar s => s.isTruthy
  | list items => !items.isEmpty
  | mapping entries => !entries.isEmpty

/-- The integer that a value stands for: fractions are cut off, and texts are read. -/
def toInteger : Value → Except NumberError Int
  | scalar (.int n) => .ok n
  | scalar (.bool b) => .ok (if b then 1 else 0)
  | scalar (.double (.finite negative mantissa exponent)) =>
    .ok (Double.truncated negative mantissa exponent)
  | scalar (.double (.infinite _)) => .error .infinite
  | scalar (.double .notNumber) => .error .notNumber
  | scalar (.text s) =>
    (Text.readInteger s.toList).mapError fun
      | .malformed => .malformed s
      | .tooLong digits => .tooLong digits
  | v => .error (.wrongKind v.kind)

/-- The integer that a value is, truth values included. -/
def integer? : Value → Option Int
  | scalar (.int n) => some n
  | scalar (.bool b) => some (if b then 1 else 0)
  | _ => none

/-- The entry of a mapping with a text for its key. -/
def field? (entries : List (Scalar × Value)) (key : String) : Option Value :=
  (entries.find? fun e ↦ e.1 = .text key).map (·.2)

/-- The value with dates, times and families as texts. -/
def plain : Value → Value
  | scalar (.date d) => text d.iso
  | scalar (.time t) => text (String.ofList (t.toText 'T'))
  | scalar (.family f) => text f.name
  | scalar s => scalar s
  | list items => list (plainItems items)
  | mapping entries => mapping (plainEntries entries)
where
  plainItems : List Value → List Value
    | [] => []
    | v :: vs => v.plain :: plainItems vs
  plainEntries : List (Scalar × Value) → List (Scalar × Value)
    | [] => []
    | (k, v) :: es => (k, v.plain) :: plainEntries es

end Value

end RuleCalendar
