import RuleCalendar.Number.Shortest
import RuleCalendar.Text.Quoted
import RuleCalendar.Value.Basic

/-!
# Values in messages and plain reports

A value on its own is shown as a reader would write it, a text without quotes. Inside a list or a
mapping, and in messages about wrong values, texts are quoted and other scalars are told apart from
texts.
-/

namespace RuleCalendar

namespace Scalar

/-- The scalar on its own. -/
def shown : Scalar → List Char
  | null => "None".toList
  | bool b => (if b then "True" else "False").toList
  | int n => Text.integer n
  | double x => x.toText
  | text s => s.toList
  | date d => d.iso.toList
  | time t => t.toText ' '
  | family f => "RuleFamily.".toList ++ f.name.toUpper.toList

/-- The scalar inside other values. -/
def quoted : Scalar → List Char
  | text s => Text.quoted s.toList
  | date d =>
    "datetime.date(".toList ++ [',', ' '].intercalate
      [Text.integer d.year, Text.integer d.month, Text.integer d.day] ++ [')']
  | time t => t.quoted
  | family f =>
    "<RuleFamily.".toList ++ f.name.toUpper.toList ++ [':', ' '] ++
      Text.quoted f.name.toList ++ ['>']
  | s => s.shown

end Scalar

namespace Value

/-- The value inside other values. -/
def quoted : Value → List Char
  | scalar s => s.quoted
  | list items => '[' :: [',', ' '].intercalate (quotedItems items) ++ [']']
  | mapping entries => '\x7b' :: [',', ' '].intercalate (quotedEntries entries) ++ ['\x7d']
where
  quotedItems : List Value → List (List Char)
    | [] => []
    | v :: vs => v.quoted :: quotedItems vs
  quotedEntries : List (Scalar × Value) → List (List Char)
    | [] => []
    | (k, v) :: es => (k.quoted ++ [':', ' '] ++ v.quoted) :: quotedEntries es

/-- The value on its own. -/
def shown : Value → List Char
  | scalar s => s.shown
  | v => v.quoted

end Value

/-- The most characters of a quoted text that a message about it shows. -/
def mostQuoted : Nat := 200

/-- The text of a number error. -/
def NumberError.message : NumberError → String
  | malformed s =>
    "invalid literal for int() with base 10: " ++
      String.ofList ((Text.quoted s.toList).take mostQuoted)
  | tooLong digits => Text.tooLongMessage digits
  | infinite => "cannot convert float infinity to integer"
  | notNumber => "cannot convert float NaN to integer"
  | wrongKind kind =>
    "int() argument must be a string, a bytes-like object or a real number, not " ++
      String.ofList (Text.quoted kind.toList)

end RuleCalendar
