import RuleCalendar.Text.Quoted
import RuleCalendar.Value.Show

/-!
# Values as JSON

Lists and mappings are written with one item a line, indented by two spaces a level; empty ones
stand on one line. All characters beyond ASCII are escaped by their UTF-16 units.
-/

namespace RuleCalendar.Json

/-- The escape of a UTF-16 unit. -/
private def unitEscape (n : Nat) : List Char := '\\' :: 'u' :: Text.hex 4 n

/-- One character between double quotes. -/
def escapeChar (c : Char) : List Char :=
  let n := c.toNat
  if c = '"' ∨ c = '\\' then ['\\', c]
  else if c = '\n' then ['\\', 'n']
  else if c = '\r' then ['\\', 'r']
  else if c = '\t' then ['\\', 't']
  else if n = 8 then ['\\', 'b']
  else if n = 12 then ['\\', 'f']
  else if 32 ≤ n ∧ n ≤ 126 then [c]
  else if n < 0x10000 then unitEscape n
  else unitEscape (0xD800 + (n - 0x10000) / 0x400) ++ unitEscape (0xDC00 + (n - 0x10000) % 0x400)

/-- A text between double quotes. -/
def quoted (s : List Char) : List Char := '"' :: s.flatMap escapeChar ++ ['"']

/-- A number with a fraction; what is not finite is named. -/
def double : Double → List Char
  | .infinite negative => (if negative then ['-'] else []) ++ "Infinity".toList
  | .notNumber => "NaN".toList
  | x => x.toText

/-- A scalar; dates and families as their texts. -/
def scalar : Scalar → List Char
  | .null => "null".toList
  | .bool b => (if b then "true" else "false").toList
  | .int n => Text.integer n
  | .double x => double x
  | .text s => quoted s.toList
  | .date d => quoted d.iso.toList
  | .time t => quoted (t.toText 'T')
  | .family f => quoted f.name.toList

/-- A key, which is always a text. -/
def key : Scalar → List Char
  | .text s => quoted s.toList
  | .date d => quoted d.iso.toList
  | .time t => quoted (t.toText 'T')
  | .family f => quoted f.name.toList
  | k => quoted (scalar k)

/-- The beginning of a line at a level. -/
private def newLine (level : Nat) : List Char := '\n' :: Text.spaces (2 * level)

/-- Items between brackets, each on a line of its own. -/
private def block (first last : Char) (level : Nat) (items : List (List Char)) : List Char :=
  if items.isEmpty then [first, last]
  else
    first :: newLine (level + 1) ++ (',' :: newLine (level + 1)).intercalate items ++
      newLine level ++ [last]

/-- A value at a level. -/
def renderAt (level : Nat) : Value → List Char
  | .scalar s => scalar s
  | .list items => block '[' ']' level (renderItems (level + 1) items)
  | .mapping entries => block '\x7b' '\x7d' level (renderEntries (level + 1) entries)
where
  renderItems (level : Nat) : List Value → List (List Char)
    | [] => []
    | v :: vs => renderAt level v :: renderItems level vs
  renderEntries (level : Nat) : List (Scalar × Value) → List (List Char)
    | [] => []
    | (k, v) :: es => (key k ++ [':', ' '] ++ renderAt level v) :: renderEntries level es

/-- A value as JSON. -/
def render (v : Value) : List Char := renderAt 0 v

end RuleCalendar.Json
