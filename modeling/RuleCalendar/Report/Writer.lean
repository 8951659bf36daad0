import RuleCalendar.Report.Table
import RuleCalendar.Value.Choice
import RuleCalendar.Value.Json
import RuleCalendar.Yaml.Writer

/-!
# Reports

What a command tells its user is written as text, JSON, YAML or tables. A quiet writer writes
nothing but warnings, which do not go to the report; details are written by a verbose writer only.
-/

namespace RuleCalendar

/-- How reports are written. -/
inductive Format where
  /-- Lines of text. -/
  | text
  /-- JSON. -/
  | json
  /-- YAML. -/
  | yaml
  /-- Tables. -/
  | table
  deriving DecidableEq, Repr

namespace Format

/-- All formats. -/
def all : List Format := [text, json, yaml, table]

/-- The name of a format. -/
def name : Format → String
  | text => "text"
  | json => "json"
  | yaml => "yaml"
  | table => "table"

/-- The format of a name. -/
def ofName? (name : String) : Option Format := all.find? fun f ↦ f.name = name

end Format

/-- The format that a value names. -/
def Value.chooseFormat : Value → Except UnknownName Format := choose "OutputFormat" Format.ofName?

/-- A value that cannot be reported, by the name of its kind. -/
inductive ShapeError where
  /-- The value has no items. -/
  | noItems (kind : String)
  /-- The value has no keys. -/
  | noKeys (kind wanted : String)
  deriving DecidableEq, Repr

/-- The text of a shape error. -/
def ShapeError.message : ShapeError → String
  | noItems kind => s!"'{kind}' object is not iterable"
  | noKeys kind wanted => s!"'{kind}' object has no attribute '{wanted}'"

/-- The full name of a value's kind. -/
def Value.fullKind : Value → String
  | scalar (.date _) => "datetime.date"
  | v => v.kind

/-- The items of a value: those of a list, the keys of a mapping, the characters of a text. -/
def Value.items : Value → Except ShapeError (List Value)
  | list items => .ok items
  | mapping entries => .ok (entries.map fun e ↦ scalar e.1)
  | scalar (.text s) => .ok (s.toList.map fun c ↦ text (String.singleton c))
  | scalar (.family f) => .ok (f.name.toList.map fun c ↦ text (String.singleton c))
  | v => .error (.noItems v.fullKind)

/-- Writes reports. -/
structure Writer where
  /-- How reports are written. -/
  format : Format := .text
  /-- Whether details are wanted. -/
  verbose : Bool := false
  /-- Whether only errors are wanted. -/
  quiet : Bool := false
  deriving Repr

namespace Writer

/-- A text as it is, unless the writer is quiet. -/
def raw (w : Writer) (s : List Char) : List Char := if w.quiet then [] else s

/-- A line of text. -/
def line (w : Writer) (s : List Char) : List Char := w.raw (s ++ ['\n'])

/-- Values in one line. -/
def values (w : Writer) (vs : List Value) : List Char :=
  w.line ([' '].intercalate (vs.map Value.shown))

/-- The text of a warning. -/
def warning (message : List Char) : List Char := "Warning: ".toList ++ message ++ ['\n']

/-- A line of details. -/
def detail (w : Writer) (s : List Char) : List Char := if w.verbose then w.line s else []

/-- The entries of a mapping, one a line. -/
def entryLines (w : Writer) (entries : List (Scalar × Value)) : List Char :=
  entries.flatMap fun e ↦ w.line (e.1.shown ++ [':', ' '] ++ e.2.shown)

/-- The keys of a row, for the headers of a table. -/
def headersOf (row : Value) : Except ShapeError (List String) := do
  return (← row.items).map fun k ↦ String.ofList k.shown

/-- The entries of the rows of a table. Without headers nothing is asked of them. -/
def rowEntries (headers : List String) (rows : List Value) :
    Except ShapeError (List (List (Scalar × Value))) :=
  rows.mapM fun
    | .mapping entries => .ok entries
    | row => if headers.isEmpty then .ok [] else .error (.noKeys row.fullKind "get")

/-- Rows as a table, under the given headers or else the keys of the first row. -/
def table (w : Writer) (rows : List Value) (headers : List String) :
    Except ShapeError (List Char) := do
  match rows with
  | [] => return []
  | first :: _ =>
    let headers ← if headers.isEmpty then headersOf first else pure headers
    return (Table.lines headers (← rowEntries headers rows)).flatMap w.line

/-- A value in the format of the writer. -/
def data (w : Writer) (v : Value) (headers : List String) : Except ShapeError (List Char) := do
  match w.format, v with
  | .json, _ => return w.line (Json.render v)
  | .yaml, _ => return w.raw (Yaml.render v.plain)
  | _, .mapping entries => return w.entryLines entries
  | .table, _ => w.table ((← v.items).map Value.plain) headers
  | .text, _ => return (← v.items).flatMap fun item ↦ w.line item.shown

/-- A mapping in the format of the writer. -/
def mapping (w : Writer) (v : Value) : Except ShapeError (List Char) :=
  match w.format, v with
  | .json, _ | .yaml, _ => w.data v []
  | _, .mapping entries => .ok (w.entryLines entries)
  | _, _ => .error (.noKeys v.fullKind "items")

end Writer

end RuleCalendar
