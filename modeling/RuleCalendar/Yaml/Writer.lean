import RuleCalendar.Number.Shortest
import RuleCalendar.Text.Quoted
import RuleCalendar.Value.Show
import RuleCalendar.Yaml.Plain

/-!
# Writing YAML

Values in block style, with the order of keys kept. The items of a list that is the value of a key
stand in the column of the key. A text is written plain where it reads back as itself, else in
single quotes, and in double quotes if it holds characters that must be escaped. Lines are folded at
spaces after eighty characters.
-/

namespace RuleCalendar.Yaml

/-- The column after which lines are folded. -/
def bestWidth : Nat := 80

/-- The most characters of a key that stands on the line of its value. -/
def longestKey : Nat := 122

/-- Whether a character has to be escaped. -/
def isSpecial (c : Char) : Bool := c != '\n' && !(32 ≤ c.toNat && c.toNat ≤ 126)

/-- Whether two characters stand next to each other in a text. -/
def hasPair (first second : Char) : List Char → Bool
  | c :: d :: rest => (c = first && d = second) || hasPair first second (d :: rest)
  | _ => false

/-- Whether a space, a line break or nothing follows. -/
def beforeGap (rest : List Char) : Bool := rest.head?.all fun c ↦ c = ' ' || c = '\n'

/-- Whether a character with structure stands within a text, when `afterSpace` tells whether a space
or a line break comes before it. -/
def hasInnerMark (afterSpace : Bool) : List Char → Bool
  | [] => false
  | c :: rest =>
    (c = ':' && beforeGap rest) || (c = '#' && afterSpace) ||
      hasInnerMark (c = ' ' || c = '\n') rest

/-- Whether a text begins like something with structure, or has such marks within it. -/
def hasMark (s : List Char) : Bool :=
  ['-', '-', '-'].isPrefixOf s || ['.', '.', '.'].isPrefixOf s ||
    match s with
    | [] => false
    | c :: rest =>
      "#,[]\x7b\x7d&*!|>'\"%@`".toList.contains c ||
        ((c = '?' || c = ':' || c = '-') && beforeGap rest) ||
        hasInnerMark (c = ' ' || c = '\n') rest

/-- Whether a character at an end of a text is a space or a line break. -/
def isLoose (c : Option Char) : Bool := c.any fun c ↦ c = ' ' || c = '\n'

/-- Whether a text may be written without quotes, if it reads back as what it should. -/
def allowsPlain (s : List Char) : Bool :=
  !(isLoose s.head? || isLoose s.getLast? || s.any isSpecial || s.contains '\n' || hasMark s)

/-- Whether a text may be written in single quotes. -/
def allowsSingle (s : List Char) : Bool :=
  !(s.any isSpecial || hasPair ' ' '\n' s || hasPair '\n' ' ' s)

/-- How a scalar is written. -/
inductive Style where
  /-- Without quotes. -/
  | plain
  /-- In single quotes. -/
  | single
  /-- In double quotes. -/
  | double
  deriving DecidableEq, Repr

/-- A number with a fraction, which has a point even before a power of ten. -/
def realText : Double → List Char
  | .infinite negative => (if negative then ['-'] else []) ++ ".inf".toList
  | .notNumber => ".nan".toList
  | x =>
    let text := x.toText
    if text.contains '.' then text
    else text.takeWhile (· ≠ 'e') ++ '.' :: '0' :: text.dropWhile (· ≠ 'e')

/-- The text of a scalar, and whether it reads back as the scalar when it stands without quotes. -/
def scalarText : Scalar → List Char × Bool
  | .null => ("null".toList, true)
  | .bool b => ((if b then "true" else "false").toList, true)
  | .int n => (Text.integer n, true)
  | .double x => (realText x, true)
  | .text s => (s.toList, PlainKind.ofText s.toList = .text)
  | .date d => (d.iso.toList, false)
  | .time t => (t.toText ' ', true)
  | .family f => (f.name.toList, PlainKind.ofText f.name.toList = .text)

/-- How a text is written; as a key it may have no line breaks between single quotes. -/
def styleOf (key : Bool) (s : List Char) (plainReads : Bool) : Style :=
  let broken := key && (s.isEmpty || s.contains '\n')
  if plainReads && !broken && allowsPlain s then .plain
  else if allowsSingle s && !(key && s.contains '\n') then .single
  else .double

/-- The beginning of a line at a column. -/
def freshLine (indent : Nat) : List Char := '\n' :: Text.spaces indent

/-- A plain text from a column on; `alone` tells whether the character before is no space. -/
def plainText (split : Bool) (indent : Nat) (alone : Bool) (column : Nat) : List Char → List Char
  | [] => []
  | c :: rest =>
    if c = ' ' && alone && rest.head? != some ' ' && split && bestWidth < column then
      freshLine indent ++ plainText split indent false indent rest
    else c :: plainText split indent (c != ' ') (column + 1) rest

/-- A text in single quotes from a column on, without its first quote. The first of a run of line
breaks is written twice, and the last is followed by the indentation. -/
def singleText (split : Bool) (indent : Nat) (before : Option Char) (column : Nat) :
    List Char → List Char
  | [] => ['\'']
  | c :: rest =>
    if c = ' ' && before.any (· != ' ') && !rest.isEmpty && rest.head? != some ' ' && split &&
        bestWidth < column then
      freshLine indent ++ singleText split indent (some c) indent rest
    else if c = '\n' then
      (if before = some '\n' then [] else ['\n']) ++
        (if rest.head? = some '\n' then ['\n'] else freshLine indent) ++
        singleText split indent (some c) indent rest
    else if c = '\'' then '\'' :: '\'' :: singleText split indent (some c) (column + 2) rest
    else c :: singleText split indent (some c) (column + 1) rest

/-- The letter that stands for a character after a backslash. -/
def escapeLetter? (c : Char) : Option Char :=
  match c.toNat with
  | 0 => some '0'
  | 7 => some 'a'
  | 8 => some 'b'
  | 9 => some 't'
  | 10 => some 'n'
  | 11 => some 'v'
  | 12 => some 'f'
  | 13 => some 'r'
  | 27 => some 'e'
  | 34 => some '"'
  | 92 => some '\\'
  | 0x85 => some 'N'
  | 0xA0 => some '_'
  | 0x2028 => some 'L'
  | 0x2029 => some 'P'
  | _ => none

/-- The hexadecimal digits of a number in capitals. -/
def capitalHex (width n : Nat) : List Char := (Text.hex width n).map Char.toUpper

/-- What a character is written as in double quotes, if it cannot stand for itself. -/
def escape? (c : Char) : Option (List Char) :=
  let n := c.toNat
  if 32 ≤ n ∧ n ≤ 126 ∧ c ≠ '"' ∧ c ≠ '\\' then none
  else match escapeLetter? c with
    | some l => some ['\\', l]
    | none =>
      if n ≤ 0xFF then some ('\\' :: 'x' :: capitalHex 2 n)
      else if n ≤ 0xFFFF then some ('\\' :: 'u' :: capitalHex 4 n)
      else some ('\\' :: 'U' :: capitalHex 8 n)

/-- The end of a line that goes on, and how the next begins before a character. -/
def joinedLine (indent : Nat) (next : Option Char) : List Char :=
  '\\' :: freshLine indent ++ if next = some ' ' then ['\\'] else []

/-- The column after the beginning of a line that goes on before a character. -/
def joinedColumn (indent : Nat) (next : Option Char) : Nat :=
  indent + if next = some ' ' then 1 else 0

/-- A text in double quotes from a column on, without its first quote; `first` tells whether nothing
comes before, and `fresh` whether an escape does. -/
def doubleText (split : Bool) (indent : Nat) (first fresh : Bool) (column : Nat) :
    List Char → List Char
  | [] => ['"']
  | c :: rest =>
    let mayFold := split && !first && !rest.isEmpty
    match escape? c with
    | none =>
      if mayFold && (c = ' ' || fresh) && bestWidth < column then
        joinedLine indent (some c) ++
          c :: doubleText split indent false false (joinedColumn indent (some c) + 1) rest
      else c :: doubleText split indent false false (column + 1) rest
    | some escape =>
      let column := column + escape.length
      if mayFold && bestWidth + 1 < column then
        escape ++ joinedLine indent rest.head? ++
          doubleText split indent false true (joinedColumn indent rest.head?) rest
      else escape ++ doubleText split indent false true column rest

/-- A scalar from a column on; lines that go on with it are indented. -/
def scalarAt (key : Bool) (indent column : Nat) (s : Scalar) : List Char :=
  let (text, plainReads) := scalarText s
  let split := !key
  match styleOf key text plainReads with
  | .plain => plainText split indent true column text
  | .single => '\'' :: singleText split indent none (column + 1) text
  | .double => '"' :: doubleText split indent true true (column + 1) text

/-- Whether a key with a character in it cannot stand on the line of its value. -/
def breaksLine (c : Char) : Bool := c = '\n' || c = '\u0085' || c = '\u2028' || c = '\u2029'

/-- Whether a key stands on the line of its value. -/
def isSimpleKey (k : Scalar) : Bool :=
  let text := (scalarText k).1
  !text.isEmpty && !text.any breaksLine && text.length ≤ longestKey

/-- A list or a mapping whose first line begins at a column. -/
def collectionAt (indent : Nat) : Value → List Char
  | .scalar s => scalarAt false indent indent s
  | .list [] => ['[', ']']
  | .mapping [] => ['\x7b', '\x7d']
  | .list items => (freshLine indent).intercalate (itemsAt indent items)
  | .mapping entries => (freshLine indent).intercalate (entriesAt indent entries)
where
  itemsAt (indent : Nat) : List Value → List (List Char)
    | [] => []
    | v :: vs => ('-' :: ' ' :: collectionAt (indent + 2) v) :: itemsAt indent vs
  entriesAt (indent : Nat) : List (Scalar × Value) → List (List Char)
    | [] => []
    | (k, v) :: es =>
      (if isSimpleKey k then
        let key := scalarAt true (indent + 2) indent k
        key ++ ':' :: match v with
          | .scalar s => ' ' :: scalarAt false (indent + 2) (indent + key.length + 2) s
          | .list [] => [' ', '[', ']']
          | .mapping [] => [' ', '\x7b', '\x7d']
          | .list items => freshLine indent ++ collectionAt indent (.list items)
          | .mapping entries =>
            freshLine (indent + 2) ++ collectionAt (indent + 2) (.mapping entries)
      else
        ['?', ' '] ++ scalarAt false (indent + 2) (indent + 2) k ++ freshLine indent ++
          [':', ' '] ++ collectionAt (indent + 2) v) :: entriesAt indent es

/-- A value as a document. A scalar without quotes is followed by the end of the document. -/
def render (v : Value) : List Char :=
  match v with
  | .scalar s =>
    let (text, plainReads) := scalarText s
    scalarAt false 2 0 s ++
      if styleOf false text plainReads = .plain then "\n...\n".toList else ['\n']
  | v => collectionAt 0 v ++ ['\n']

end RuleCalendar.Yaml
