import RuleCalendar.Yaml.Fault
import RuleCalendar.Yaml.Plain
import RuleCalendar.Yaml.Source

/-!
# How scalars of YAML are spelled

A scalar stands in single quotes, where a quote is written twice; in double quotes, where a
backslash begins an escape; plain, up to a colon or a comment; or in block style, as indented lines
below a header. A scalar in quotes or a plain one may go on over several lines. Spaces around a line
break are then dropped, a single break is read as a space, and of several the first is dropped.
-/

namespace RuleCalendar.Yaml

/-- What line breaks within a scalar are read as. -/
def foldBreaks (first : Char) (more : List Char) : List Char :=
  (if first = '\n' then (if more.isEmpty then [' '] else []) else [first]) ++ more

/-- What a reader of a scalar has just seen. -/
inductive Seen where
  /-- Text. -/
  | text
  /-- Blanks, nearest first. -/
  | blanks (run : List Char)
  /-- Line breaks and blanks around them. -/
  | breaks (first : Char) (more : List Char)
  /-- Line breaks of which the first is escaped. -/
  | joined (more : List Char)
  /-- A quote that may be the first of two. -/
  | quote
  /-- A backslash. -/
  | backslash
  /-- The first digits of a code point, and how many are to come after the next. -/
  | code (left value : Nat)

namespace Seen

/-- The gap that was seen. -/
def gap : Seen → List Char
  | blanks run => run.reverse
  | breaks first more => foldBreaks first more
  | joined more => more
  | _ => []

/-- What is seen after one more blank. -/
def blank (c : Char) : Seen → Seen
  | blanks run => blanks (c :: run)
  | breaks first more => breaks first more
  | joined more => joined more
  | _ => blanks [c]

/-- What is seen after one more line break. -/
def lineBreak (c : Char) : Seen → Seen
  | breaks first more => breaks first (more ++ [keptBreak c])
  | joined more => joined (more ++ [keptBreak c])
  | _ => breaks (keptBreak c) []

/-- Whether a line has just begun. -/
def isLineStart : Seen → Bool
  | breaks .. | joined _ => true
  | _ => false

end Seen

/-- The code point that a letter after a backslash stands for. -/
def escaped? : Char → Option Nat
  | '0' => some 0
  | 'a' => some 7
  | 'b' => some 8
  | 't' | '\t' => some 9
  | 'n' => some 10
  | 'v' => some 11
  | 'f' => some 12
  | 'r' => some 13
  | 'e' => some 27
  | ' ' => some 32
  | '"' => some 34
  | '/' => some 47
  | '\\' => some 92
  | 'N' => some 0x85
  | '_' => some 0xA0
  | 'L' => some 0x2028
  | 'P' => some 0x2029
  | _ => none

/-- How many hexadecimal digits follow a letter after a backslash. -/
def codeDigits? : Char → Option Nat
  | 'x' => some 2
  | 'u' => some 4
  | 'U' => some 8
  | _ => none

/-- Whether a code point is the first or the second half of a character. -/
def isHalf (n : Nat) : Bool := 0xD800 ≤ n && n ≤ 0xDFFF

/-- The characters of code points, where two halves that follow each other are one. -/
def charactersOf : List Nat → Except FormError (List Char)
  | [] => .ok []
  | n :: rest =>
    if !isHalf n then do return Char.ofNat n :: (← charactersOf rest)
    else match rest with
      | m :: rest =>
        if n < 0xDC00 ∧ 0xDC00 ≤ m ∧ m ≤ 0xDFFF then do
          return Char.ofNat (0x10000 + (n - 0xD800) * 0x400 + (m - 0xDC00)) ::
            (← charactersOf rest)
        else .error .halfCharacter
      | [] => .error .halfCharacter

/-- The code points of characters in front of others that are held last first. -/
def pushChars (s : List Char) (out : List Nat) : List Nat := (s.map Char.toNat).reverse ++ out

/-- The text of a scalar from its code points, last first. -/
def finishText (out : List Nat) : Except ReadError (List Char) :=
  (charactersOf out.reverse).mapError .form

/-- The rest of a scalar between quotes, when `out` is its text so far, last code point first: its
text and what follows it. A document marker at the beginning of a line ends the document. -/
def quotedFrom (mark : Char) (out : List Nat) (seen : Seen) (lineStart : Bool) :
    List Char → Except ReadError (List Char × List Char)
  | [] =>
    match seen with
    | .quote => do return (← finishText out, [])
    | _ => .error (.form .unexpectedEnd)
  | c :: rest =>
    match seen with
    | .quote =>
      if c = mark then quotedFrom mark (c.toNat :: out) .text false rest
      else do return (← finishText out, c :: rest)
    | .backslash =>
      if isBreak c then quotedFrom mark out (.joined []) true rest
      else match escaped? c, codeDigits? c with
        | some n, _ => quotedFrom mark (n :: out) .text false rest
        | none, some n => quotedFrom mark out (.code (n - 1) 0) false rest
        | none, none => .error (.form .badEscape)
    | .code left value =>
      match hexValue? c with
      | none => .error (.form .badEscape)
      | some d =>
        let value := 16 * value + d
        match left with
        | left + 1 => quotedFrom mark out (.code left value) false rest
        | 0 =>
          if value < 0x110000 then quotedFrom mark (value :: out) .text false rest
          else .error (.noCharacter value)
    | seen =>
      if lineStart && beginsMarker (c :: rest) then .error (.form .documentMarker)
      else if c = ' ' || c = '\t' then quotedFrom mark out (seen.blank c) false rest
      else if isBreak c then quotedFrom mark out (seen.lineBreak c) true rest
      else
        let out := pushChars seen.gap out
        if c = mark then
          if mark = '"' then do return (← finishText out, rest)
          else quotedFrom mark out .quote false rest
        else if c = '\\' && mark = '"' then quotedFrom mark out .backslash false rest
        else quotedFrom mark (c.toNat :: out) .text false rest

/-- The text of a scalar after its first quote, and what follows it. -/
def readQuoted (mark : Char) (s : List Char) : Except ReadError (List Char × List Char) :=
  quotedFrom mark [] .text false s

/-- The characters that stand for structure between brackets. -/
def isFlowMark (c : Char) : Bool :=
  c = ',' || c = '[' || c = ']' || c = '\x7b' || c = '\x7d'

/-- Whether a plain scalar ends before a character. -/
def endsPlain (flow : Bool) (c : Char) (rest : List Char) : Bool :=
  isGap c || (c = ':' && (beginsGap rest || (flow && rest.head?.any isFlowMark))) ||
    (flow && (c = '?' || isFlowMark c))

/-- Whether a plain scalar begins with a character. -/
def beginsPlain (flow : Bool) (c : Char) (rest : List Char) : Bool :=
  if c = '-' then !beginsGap rest
  else if c = '?' || c = ':' then !flow && !beginsGap rest
  else !(isGap c || isFlowMark c || "#&*!|>'\"%@`".toList.contains c)

/-- The text of a plain scalar, whether a line ended after it, and what follows it. -/
structure PlainReading where
  /-- The text. -/
  text : List Char
  /-- Whether a line ended after it. -/
  crossed : Bool
  /-- What follows it and the gap after it. -/
  rest : List Char
  deriving DecidableEq, Repr

/-- The rest of a plain scalar, when `out` is its text so far, last character first, and `column`
where the rest begins in its line. Lines that go on with it are indented by `indent` at least. The
text of the reading is given last character first, too. -/
def plainFrom (flow : Bool) (indent : Int) (out : List Char) (seen : Seen) (column : Nat) :
    List Char → PlainReading
  | [] => ⟨out, seen.isLineStart, []⟩
  | c :: rest =>
    let done : PlainReading := ⟨out, seen.isLineStart, c :: rest⟩
    if seen.isLineStart && column = 0 && beginsMarker (c :: rest) then done
    else if c = ' ' then plainFrom flow indent out (seen.blank c) (column + 1) rest
    else if isBreak c then
      plainFrom flow indent out ((if seen.isLineStart then seen else .text).lineBreak c) 0 rest
    else if endsPlain flow c rest then done
    else match seen with
      | .text => plainFrom flow indent (c :: out) .text (column + 1) rest
      | seen =>
        if c = '#' ∨ (seen.isLineStart ∧ !flow ∧ (column : Int) < indent) then done
        else plainFrom flow indent (c :: seen.gap.reverse ++ out) .text (column + 1) rest

/-- The plain scalar at the beginning of a text. -/
def readPlain (flow : Bool) (indent : Int) (s : List Char) : PlainReading :=
  let r := plainFrom flow indent [] .text 1 s
  { r with text := r.text.reverse }

/-- What becomes of the line breaks at the end of a scalar in block style. -/
inductive Chomping where
  /-- One is kept. -/
  | clip
  /-- None is kept. -/
  | strip
  /-- All are kept. -/
  | keep
  deriving DecidableEq, Repr

/-- The header of a scalar in block style. -/
structure BlockHeader where
  /-- What becomes of the line breaks at its end. -/
  chomping : Chomping := .clip
  /-- By how much it is indented, if that is not left to its first line. -/
  increment : Option Nat := none
  deriving DecidableEq, Repr

/-- The chomping that a character asks for. -/
def chomping? : Char → Option Chomping
  | '+' => some .keep
  | '-' => some .strip
  | _ => none

/-- The increment that a character asks for. -/
def increment? (c : Char) : Option Nat := if isDecimal c then some (c.toNat - 48) else none

/-- The marks at the beginning of a header, in either order, and what follows them. -/
def readMarks (s : List Char) : BlockHeader × List Char :=
  match s with
  | [] => ({}, [])
  | c :: rest =>
    match chomping? c, increment? c with
    | some chomping, _ =>
      match rest with
      | d :: more =>
        match increment? d with
        | some n => ({ chomping, increment := some n }, more)
        | none => ({ chomping }, rest)
      | [] => ({ chomping }, [])
    | none, some n =>
      match rest with
      | d :: more =>
        match chomping? d with
        | some chomping => ({ chomping, increment := some n }, more)
        | none => ({ increment := some n }, rest)
      | [] => ({ increment := some n }, [])
    | none, none => ({}, s)

/-- What follows the rest of a line that holds nothing but spaces and a comment. -/
def afterEmptyLine? (s : List Char) : Option (List Char) :=
  let s := s.dropWhile (· = ' ')
  let s := if s.head? = some '#' then s.dropWhile (!isBreak ·) else s
  match s with
  | [] => some []
  | c :: rest => if isBreak c then some rest else none

/-- The header of a scalar in block style, and the lines below it. -/
def readHeader (s : List Char) : Except FormError (BlockHeader × List Char) := do
  let (header, rest) := readMarks s
  if header.increment = some 0 || !beginsSpace rest then throw .badHeader
  match afterEmptyLine? rest with
  | some rest => return (header, rest)
  | none => throw .badHeader

/-- A line of a text: its characters, and the break that ends it. -/
structure Line where
  /-- The characters. -/
  text : List Char
  /-- The break. -/
  ending : Option Char
  deriving DecidableEq, Repr

/-- The lines of a text. -/
def linesOf : List Char → List Line
  | [] => []
  | c :: rest =>
    if isBreak c then ⟨[], some c⟩ :: linesOf rest
    else match linesOf rest with
      | line :: lines => { line with text := c :: line.text } :: lines
      | [] => [⟨[c], none⟩]

namespace Line

/-- The text of lines. -/
def join (lines : List Line) : List Char := lines.flatMap fun l ↦ l.text ++ l.ending.toList

/-- How many spaces a line begins with. -/
def depth (l : Line) : Nat := (l.text.takeWhile (· = ' ')).length

/-- Whether a line has only spaces and ends in a break. -/
def isBlank (l : Line) : Bool := l.ending.isSome && l.text.all (· = ' ')

/-- A line without the spaces of an indentation. -/
def body (indent : Nat) (l : Line) : List Char := l.text.drop (min indent l.depth)

/-- Whether a line has nothing but a break after the spaces of an indentation. -/
def isEmpty (indent : Nat) (l : Line) : Bool := l.ending.isSome && (l.body indent).isEmpty

/-- Whether a line has something after the spaces of an indentation. -/
def isContent (indent : Nat) (l : Line) : Bool :=
  indent ≤ l.depth && !(l.body indent).isEmpty

end Line

/-- The indentation that is taken from the first lines. -/
def indentOf (least : Nat) (lines : List Line) : Nat :=
  let blank := lines.takeWhile Line.isBlank
  let next := (lines.drop blank.length).head?
  ((blank ++ next.toList).map Line.depth).foldl max least

/-- What is read of a scalar in block style. -/
structure BlockReading where
  /-- Its text without the breaks at its end. -/
  text : List Char := []
  /-- The break of its last line that is not empty. -/
  last : Option Char := none
  /-- The breaks of the empty lines after it. -/
  breaks : List Char := []
  /-- Whether the last line that is not empty begins with a blank. -/
  loose : Bool := true

namespace BlockReading

/-- What stands between two lines that are not empty. -/
def joint (folded : Bool) (r : BlockReading) (loose : Bool) : List Char :=
  (if folded && r.last = some '\n' && !r.loose && !loose then
    (if r.breaks.isEmpty then [' '] else [])
  else r.last.toList) ++ r.breaks

/-- The reading with one more line that is not empty. -/
def add (folded : Bool) (body : List Char) (ending : Option Char) (r : BlockReading) :
    BlockReading :=
  let loose := body.head?.any fun c ↦ c = ' ' || c = '\t'
  { text := r.text ++ r.joint folded loose ++ body, last := ending.map keptBreak, loose }

/-- The text with as many of the breaks at its end as are kept. -/
def finish (chomping : Chomping) (r : BlockReading) : List Char :=
  match chomping with
  | .strip => r.text
  | .clip => r.text ++ r.last.toList
  | .keep => r.text ++ r.last.toList ++ r.breaks

end BlockReading

/-- The lines of a scalar in block style read, and the lines that are left. -/
def blockFrom (folded : Bool) (indent : Nat) (r : BlockReading) :
    List Line → BlockReading × List Line
  | [] => (r, [])
  | line :: lines =>
    if line.isEmpty indent then
      blockFrom folded indent
        { r with breaks := r.breaks ++ (line.ending.map keptBreak).toList } lines
    else if line.isContent indent then
      blockFrom folded indent (r.add folded (line.body indent) line.ending) lines
    else (r, line :: lines)

/-- The text of a scalar in block style after its mark, inside a collection in column `outer`, and
what follows it. -/
def readBlock (folded : Bool) (outer : Int) (s : List Char) :
    Except FormError (List Char × List Char) := do
  let (header, rest) ← readHeader s
  let least := (max (outer + 1) 1).toNat
  let lines := linesOf rest
  let indent := match header.increment with
    | some n => least + n - 1
    | none => indentOf least lines
  let (r, left) := blockFrom folded indent {} lines
  return (r.finish header.chomping, Line.join left)

end RuleCalendar.Yaml
