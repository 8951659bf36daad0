import RuleCalendar.Yaml.Token.Name

/-!
# Reading the tokens of YAML

Tokens are read one after the other. What is read so far tells in which columns the collections
around the next token stand, how many brackets are open, and which token would be a key if a colon
followed it: that has to happen on its line and within a number of characters.
-/

namespace RuleCalendar.Yaml

/-- The most characters from the beginning of a key to its colon. -/
def longestSpan : Nat := 1024

/-- A token that is a key if a colon follows it. -/
structure PossibleKey where
  /-- How many tokens come before it. -/
  number : Nat
  /-- Whether anything but a key would be misplaced there. -/
  required : Bool
  /-- Where it begins. -/
  start : Source
  deriving Repr

/-- Whether a possible key may still be followed by its colon at a place. -/
def PossibleKey.isFresh (here : Source) (k : PossibleKey) : Bool :=
  k.start.line = here.line && here.index - k.start.index ≤ longestSpan

/-- What is read so far. -/
structure Tokens where
  /-- What is still to be read. -/
  source : Source
  /-- The tokens, last first. -/
  read : List Token := []
  /-- How many they are. -/
  count : Nat := 0
  /-- The column of the innermost collection that is told by indentation. -/
  indent : Int := -1
  /-- The columns of the collections around it. -/
  outer : List Int := []
  /-- Whether a key may begin here. -/
  allowKey : Bool := true
  /-- The possible key between the innermost brackets. -/
  possible : Option PossibleKey := none
  /-- The possible keys outside of them, one for each open bracket. -/
  around : List (Option PossibleKey) := []
  deriving Repr

namespace Tokens

/-- Whether a bracket is open. -/
def inFlow (t : Tokens) : Bool := !t.around.isEmpty

/-- The column of the source. -/
def column (t : Tokens) : Int := t.source.column

/-- The tokens with one more. -/
def emit (token : Token) (t : Tokens) : Tokens :=
  { t with read := token :: t.read, count := t.count + 1 }

/-- The tokens with one more that is made up of a number of characters. -/
def take (n : Nat) (token : Token) (t : Tokens) : Tokens :=
  { t.emit token with source := t.source.drop n }

/-- The tokens with one more, and a text that is left. -/
def takeTo (rest : List Char) (token : Token) (t : Tokens) : Tokens :=
  { t.emit token with source := t.source.dropTo rest }

/-- The tokens with some put after a number of them. -/
def insertAfter (number : Nat) (tokens : List Token) (t : Tokens) : Tokens :=
  let later := t.count - number
  { t with
    read := t.read.take later ++ tokens.reverse ++ t.read.drop later
    count := t.count + tokens.length }

/-- The tokens from the next part of the text on. After a line break a key may begin. -/
def skipGap (t : Tokens) : Tokens :=
  let source := t.source.skip
  { t with source, allowKey := t.allowKey || (!t.inFlow && t.source.line < source.line) }

/-- A possible key, unless it cannot be one any more. -/
def freshKey (here : Source) (possible : Option PossibleKey) :
    Except FormError (Option PossibleKey) :=
  match possible with
  | none => .ok none
  | some k =>
    if k.isFresh here then .ok (some k)
    else if k.required then .error .missingColon
    else .ok none

/-- The tokens without keys that cannot be keys any more. -/
def dropStale (t : Tokens) : Except FormError Tokens := do
  let possible ← freshKey t.source t.possible
  let around ← t.around.mapM (freshKey t.source)
  return { t with possible, around }

/-- The tokens without the innermost possible key. -/
def dropKey (t : Tokens) : Except FormError Tokens :=
  if t.possible.any (·.required) then .error .missingColon
  else .ok { t with possible := none }

/-- The tokens with the next as a possible key, if one may begin here. -/
def noteKey (t : Tokens) : Except FormError Tokens := do
  if !t.allowKey then return t
  let t ← t.dropKey
  let key : PossibleKey :=
    { number := t.count, required := !t.inFlow && t.indent = t.column, start := t.source }
  return { t with possible := some key }

/-- The columns of collections that go on in a column, the innermost first, and how many end. -/
def ending (column : Int) : Int → List Int → Nat × Int × List Int
  | indent, [] => (0, indent, [])
  | indent, next :: outer =>
    if column < indent then
      let (count, left) := ending column next outer
      (count + 1, left)
    else (0, indent, next :: outer)

/-- The tokens with the ends of all collections that do not go on in a column. -/
def unindent (column : Int) (t : Tokens) : Tokens :=
  if t.inFlow then t
  else
    let (ends, indent, outer) := ending column t.indent t.outer
    { t with
      read := List.replicate ends .blockEnd ++ t.read
      count := t.count + ends
      indent, outer }

/-- Whether a collection begins in a column. -/
def opensAt (t : Tokens) (column : Int) : Bool := !t.inFlow && t.indent < column

/-- The tokens with a collection that begins in a column. -/
def indentTo (column : Int) (t : Tokens) : Tokens :=
  if t.opensAt column then { t with indent := column, outer := t.indent :: t.outer } else t

/-- The tokens with the end of the text. -/
def finish (t : Tokens) : Except FormError Tokens := do
  return (← (t.unindent (-1)).dropKey).emit .finish

/-- The tokens with all collections ended and no possible key. -/
def endAll (t : Tokens) : Except FormError Tokens := do
  let t ← (t.unindent (-1)).dropKey
  return { t with allowKey := false }

/-- The tokens with a directive. -/
def takeDirective (rest : List Char) (t : Tokens) : Except FormError Tokens := do
  let t ← t.endAll
  let (directive, rest) ← readDirective rest
  return t.takeTo rest (.directive directive)

/-- The tokens with a bracket that opens a collection. -/
def takeOpen (token : Token) (t : Tokens) : Except FormError Tokens := do
  let t ← t.noteKey
  let around := t.possible :: t.around
  return { t.take 1 token with allowKey := true, possible := none, around }

/-- The tokens with a bracket that closes a collection. -/
def takeClose (token : Token) (t : Tokens) : Except FormError Tokens := do
  let t ← t.dropKey
  match t.around with
  | [] => throw .unmatchedBracket
  | possible :: around => return { t.take 1 token with allowKey := false, possible, around }

/-- The tokens with a comma. -/
def takeComma (t : Tokens) : Except FormError Tokens := do
  let t ← t.dropKey
  return { t.take 1 .comma with allowKey := true }

/-- The tokens with the hyphen of an entry. -/
def takeEntry (t : Tokens) : Except FormError Tokens := do
  if !t.inFlow && !t.allowKey then throw .sequenceNotAllowed
  let t := if t.opensAt t.column then (t.indentTo t.column).emit .blockSequence else t
  let t ← t.dropKey
  return { t.take 1 .entry with allowKey := true }

/-- The tokens with the question mark of a key. -/
def takeKey (t : Tokens) : Except FormError Tokens := do
  if !t.inFlow && !t.allowKey then throw .keyNotAllowed
  let t := if t.opensAt t.column then (t.indentTo t.column).emit .blockMapping else t
  let t ← t.dropKey
  return { t.take 1 .key with allowKey := !t.inFlow }

/-- The tokens with a colon, which makes a key of a possible one. -/
def takeValue (t : Tokens) : Except FormError Tokens := do
  match t.possible with
  | some k =>
    let opening := if t.opensAt k.start.column then [Token.blockMapping] else []
    let t := (t.insertAfter k.number (opening ++ [.key])).indentTo k.start.column
    return { t.take 1 .value with allowKey := false, possible := none }
  | none =>
    if !t.inFlow && !t.allowKey then throw .mappingNotAllowed
    let t := if t.opensAt t.column then (t.indentTo t.column).emit .blockMapping else t
    return { t.take 1 .value with allowKey := !t.inFlow }

/-- The tokens with one that may be a key, by a reader of what follows its first character. -/
def takeNamed (readRest : List Char → Except FormError (Token × List Char)) (rest : List Char)
    (t : Tokens) : Except FormError Tokens := do
  let t ← t.noteKey
  let (token, left) ← readRest rest
  return { t.takeTo left token with allowKey := false }

/-- The tokens with a scalar in block style. -/
def takeBlock (folded : Bool) (rest : List Char) (t : Tokens) : Except FormError Tokens := do
  let t ← t.dropKey
  let (text, left) ← readBlock folded t.indent rest
  return { t.takeTo left (.scalar false text) with allowKey := true }

/-- The tokens with a scalar between quotes. -/
def takeQuoted (mark : Char) (rest : List Char) (t : Tokens) : Except ReadError Tokens := do
  let t ← t.noteKey.mapError .form
  let (text, left) ← readQuoted mark rest
  return { t.takeTo left (.scalar false text) with allowKey := false }

/-- The tokens with a plain scalar. -/
def takePlain (t : Tokens) : Except FormError Tokens := do
  let t ← t.noteKey
  let r := readPlain t.inFlow (t.indent + 1) t.source.rest
  return { t.takeTo r.rest (.scalar true r.text) with allowKey := r.crossed }

/-- The tokens with one more, which begins with a character. -/
def takeNext (c : Char) (rest : List Char) (t : Tokens) : Except ReadError Tokens :=
  let form (x : Except FormError Tokens) : Except ReadError Tokens := x.mapError .form
  let atStart := t.source.column = 0
  if c = '%' && atStart then form (t.takeDirective rest)
  else if atStart && beginsMark '-' (c :: rest) then
    form (do return (← t.endAll).take 3 .documentStart)
  else if atStart && beginsMark '.' (c :: rest) then
    form (do return (← t.endAll).take 3 .documentEnd)
  else if c = '[' then form (t.takeOpen .listOpen)
  else if c = '\x7b' then form (t.takeOpen .mappingOpen)
  else if c = ']' then form (t.takeClose .listClose)
  else if c = '\x7d' then form (t.takeClose .mappingClose)
  else if c = ',' then form t.takeComma
  else if c = '-' && beginsGap rest then form t.takeEntry
  else if c = '?' && (t.inFlow || beginsGap rest) then form t.takeKey
  else if c = ':' && (t.inFlow || beginsGap rest) then form t.takeValue
  else if c = '*' then
    form (t.takeNamed (fun s ↦ (readAnchor s).map fun r ↦ (.reference r.1, r.2)) rest)
  else if c = '&' then
    form (t.takeNamed (fun s ↦ (readAnchor s).map fun r ↦ (.anchor r.1, r.2)) rest)
  else if c = '!' then form (t.takeNamed (fun s ↦ (readTag s).map fun r ↦ (.tag r.1, r.2)) rest)
  else if c = '|' && !t.inFlow then form (t.takeBlock false rest)
  else if c = '>' && !t.inFlow then form (t.takeBlock true rest)
  else if c = '\'' || c = '"' then t.takeQuoted c rest
  else if beginsPlain t.inFlow c rest then form t.takePlain
  else .error (.form (.misplaced c))

/-- The tokens with the next one, and whether it is the last. -/
def step (t : Tokens) : Except ReadError (Tokens × Bool) := do
  let t ← t.skipGap.dropStale.mapError .form
  let t := t.unindent t.column
  match t.source.rest with
  | [] => return (← t.finish.mapError .form, true)
  | c :: rest => return (← t.takeNext c rest, false)

/-- The tokens that nothing comes before any more: those before the first that may be a key. -/
def settled (t : Tokens) : List Token :=
  let waiting := (t.possible :: t.around).filterMap fun k ↦ k.filter (·.isFresh t.source)
  let count := waiting.foldl (fun n k ↦ min n k.number) t.count
  (t.read.drop (t.count - count)).reverse

/-- The tokens of the rest of a text, in order. Where the text cannot be read, they end in a fault.
Nobody sees a token before it is known whether it is a key, so that a fault comes before those of
which it is not. -/
def readFrom : Nat → Tokens → List Token
  | 0, t => t.read.reverse ++ [.fault (.form .unexpectedEnd)]
  | fuel + 1, t =>
    match t.step with
    | .error e => t.settled ++ [.fault e]
    | .ok (t, true) => t.read.reverse
    | .ok (t, false) => readFrom fuel t

end Tokens

/-- Whether a character may stand in a document. -/
def isDocumentChar (c : Char) : Bool :=
  let n := c.toNat
  n == 9 || n == 10 || n == 13 || (0x20 ≤ n && n ≤ 0x7E) || n == 0x85 ||
    (0xA0 ≤ n && n ≤ 0xD7FF) || (0xE000 ≤ n && n ≤ 0xFFFD) || 0x10000 ≤ n

/-- The tokens of a text. -/
def tokensOf (text : List Char) : List Token :=
  match text.find? fun c ↦ !isDocumentChar c with
  | some c => [.fault (.form (.unprintable c))]
  | none => Tokens.readFrom (text.length + 1) { source := { rest := text } }

end RuleCalendar.Yaml
