/-!
# The text of a YAML document

The text that is still to be read, and where in the document it begins: after how many characters,
on which line and in which column. Between the parts of a document stand spaces, comments and line
breaks; a tab is not among them, so that it stands in quotes and comments only.
-/

namespace RuleCalendar.Yaml

/-- Whether a line ends with a character. -/
def isBreak (c : Char) : Bool :=
  c = '\n' || c = '\r' || c = '\u0085' || c = '\u2028' || c = '\u2029'

/-- A line break as it is kept. -/
def keptBreak (c : Char) : Char := if c = '\u0085' || c = '\r' then '\n' else c

/-- Whether a character is a blank or ends a line. -/
def isGap (c : Char) : Bool := c = ' ' || c = '\t' || isBreak c

/-- Whether a text is empty or begins with a gap. -/
def beginsGap (s : List Char) : Bool := s.head?.all isGap

/-- Whether a text is empty or begins with a space or a line break. -/
def beginsSpace (s : List Char) : Bool := s.head?.all fun c ↦ c = ' ' || isBreak c

/-- Whether a text begins with a mark of three characters on its own. -/
def beginsMark (mark : Char) : List Char → Bool
  | a :: b :: c :: rest => a = mark && b = mark && c = mark && beginsGap rest
  | _ => false

/-- Whether a text begins with three hyphens or three dots on their own. -/
def beginsMarker (s : List Char) : Bool := beginsMark '-' s || beginsMark '.' s

/-- How many characters stand before the next part of a document; `comment` tells whether they begin
within a comment. -/
def gapLength (comment : Bool) : List Char → Nat
  | [] => 0
  | c :: rest =>
    if isBreak c then gapLength false rest + 1
    else if comment || c = '#' then gapLength true rest + 1
    else if c = ' ' then gapLength false rest + 1
    else 0

/-- The text that is still to be read, and where it begins. -/
structure Source where
  /-- The text. -/
  rest : List Char
  /-- How many characters of the document come before it. -/
  index : Nat := 0
  /-- How many lines of the document end before it. -/
  line : Nat := 0
  /-- How many characters of its first line come before it. A byte order mark does not count. -/
  column : Nat := 0
  deriving DecidableEq, Repr

namespace Source

/-- The source after a character. -/
def next (s : Source) : Source :=
  match s.rest with
  | [] => s
  | c :: rest =>
    if isBreak c then { rest, index := s.index + 1, line := s.line + 1 }
    else
      { rest, index := s.index + 1, line := s.line
        column := if c = '\ufeff' then s.column else s.column + 1 }

/-- The source after a number of characters. -/
def drop : Nat → Source → Source
  | 0, s => s
  | n + 1, s => drop n s.next

/-- The source from the place on where a text is left to be read. -/
def dropTo (rest : List Char) (s : Source) : Source := s.drop (s.rest.length - rest.length)

/-- The source from the next part of the document on. A byte order mark at the very beginning is
passed over. -/
def skip (s : Source) : Source :=
  let s := if s.index = 0 && s.rest.head? = some '\ufeff' then s.next else s
  s.drop (gapLength false s.rest)

end Source

end RuleCalendar.Yaml
