import RuleCalendar.Text.Split

/-!
# Paths

A path is a root and the names below it. Empty names and single dots in the text of a path are
dropped and runs of slashes count as one, but for exactly two slashes at the beginning, which are a
root of their own. Double dots stay: what they lead to depends on the files.
-/

namespace RuleCalendar

/-- Where a path begins. -/
inductive PathRoot where
  /-- At the working directory. -/
  | working
  /-- At the root directory. -/
  | slash
  /-- At the root directory, written with two slashes. -/
  | doubleSlash
  deriving DecidableEq, Repr

/-- A root and the names below it. -/
structure Path where
  /-- Where the path begins. -/
  root : PathRoot
  /-- The names below the root. -/
  names : List String
  deriving DecidableEq, Repr

namespace PathRoot

/-- The root that a text begins with. -/
def ofText : List Char → PathRoot
  | '/' :: '/' :: '/' :: _ => slash
  | '/' :: '/' :: _ => doubleSlash
  | '/' :: _ => slash
  | _ => working

/-- The written form of a root. -/
def toText : PathRoot → String
  | working => ""
  | slash => "/"
  | doubleSlash => "//"

end PathRoot

namespace Path

/-- The path that a text stands for. -/
def ofText (s : String) : Path where
  root := .ofText s.toList
  names := ((Text.splitAt '/' s.toList).map String.ofList).filter fun n ↦ n ≠ "" ∧ n ≠ "."

/-- The written form of a path. -/
def toText (p : Path) : String :=
  if p.root = .working ∧ p.names = [] then "."
  else p.root.toText ++ "/".intercalate p.names

/-- The path to the directory that holds what the path leads to. -/
def parent (p : Path) : Path := { p with names := p.names.dropLast }

end Path

end RuleCalendar
