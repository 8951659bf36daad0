import RuleCalendar.Text.Blank
import RuleCalendar.Text.Layout
import RuleCalendar.Value.Show

/-!
# Tables

Columns of text under their headers, each as wide as its widest cell, with bars between them and a
line of dashes below the headers. Blanks at the ends of rows are left out.
-/

namespace RuleCalendar.Table

/-- What stands between two columns. -/
def bar : List Char := [' ', '|', ' ']

/-- What a row has under a header; nothing if it has no such key. -/
def cell (row : List (Scalar × Value)) (header : String) : List Char :=
  ((Value.field? row header).map Value.shown).getD []

/-- The width of the column under a header. -/
def width (header : String) (rows : List (List (Scalar × Value))) : Nat :=
  (rows.map fun row ↦ (cell row header).length).foldl max header.length

/-- The headers with the widths of their columns. -/
def columns (headers : List String) (rows : List (List (Scalar × Value))) : List (String × Nat) :=
  headers.map fun h ↦ (h, width h rows)

/-- The line of the headers. -/
def headLine (columns : List (String × Nat)) : List Char :=
  bar.intercalate (columns.map fun c ↦ Text.padRight c.2 c.1.toList)

/-- The line of a row with the blanks at its end. -/
def fullRowLine (columns : List (String × Nat)) (row : List (Scalar × Value)) : List Char :=
  bar.intercalate (columns.map fun c ↦ Text.padRight c.2 (cell row c.1))

/-- The line of a row. -/
def rowLine (columns : List (String × Nat)) (row : List (Scalar × Value)) : List Char :=
  Text.stripEnd (fullRowLine columns row)

/-- The lines of a table. -/
def lines (headers : List String) (rows : List (List (Scalar × Value))) : List (List Char) :=
  let columns := columns headers rows
  let head := headLine columns
  head :: List.replicate head.length '-' :: rows.map (rowLine columns)

end RuleCalendar.Table
