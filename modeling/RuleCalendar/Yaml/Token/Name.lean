import RuleCalendar.Text.Split
import RuleCalendar.Text.Utf8
import RuleCalendar.Yaml.Source
import RuleCalendar.Yaml.Spelling
import RuleCalendar.Yaml.Token.Basic

/-!
# Names in YAML

The names of anchors, the tags of nodes and the directives before a document. Each is read from the
beginning of a text and says what has to follow it.
-/

namespace RuleCalendar.Yaml

/-- Whether a character may stand in a name. -/
def isNameChar (c : Char) : Bool := c.isAlphanum || c = '-' || c = '_'

/-- The characters of a kind at the start of a text, if there are any, and the rest. -/
def takeSome? (p : Char → Bool) (s : List Char) : Option (List Char × List Char) :=
  let run := s.takeWhile p
  if run.isEmpty then none else some (run, s.dropWhile p)

/-- The name of an anchor, and what follows it. -/
def readAnchor (s : List Char) : Except FormError (String × List Char) :=
  match takeSome? isNameChar s with
  | some (name, rest) =>
    if rest.head?.all fun c ↦ isGap c || "?:,]\x7d%@`".toList.contains c then
      .ok (String.ofList name, rest)
    else .error .badName
  | none => .error .badName

/-- Whether a character may stand in the rest of a tag. -/
def isTagChar (c : Char) : Bool := c.isAlphanum || "-;/?:@&=+$,_.!~*'()[]".toList.contains c

/-- The bytes that percent signs with two hexadecimal digits stand for, and what follows them. -/
def escapedBytes : List Char → Except FormError (List UInt8 × List Char)
  | '%' :: a :: b :: rest =>
    match hexValue? a, hexValue? b with
    | some high, some low => do
      let (bytes, rest) ← escapedBytes rest
      return ((16 * high + low).toUInt8 :: bytes, rest)
    | _, _ => .error .badName
  | '%' :: _ => .error .badName
  | rest => .ok ([], rest)

/-- The rest of a tag at the start of a text, with its escapes read, and what follows it. -/
def tagSuffixFrom : Nat → List Char → Except FormError (List Char × List Char)
  | 0, rest => .ok ([], rest)
  | fuel + 1, s => do
    let front := s.takeWhile isTagChar
    match s.dropWhile isTagChar with
    | '%' :: rest =>
      let (bytes, rest) ← escapedBytes ('%' :: rest)
      match Utf8.decode bytes with
      | .error _ => throw .badName
      | .ok chars =>
        let (more, rest) ← tagSuffixFrom fuel rest
        return (front ++ chars ++ more, rest)
    | rest => return (front, rest)

/-- The rest of a tag, which is not empty, and what follows it. -/
def readTagSuffix (s : List Char) : Except FormError (String × List Char) := do
  let (suffix, rest) ← tagSuffixFrom (s.length + 1) s
  if rest.length = s.length then throw .badName
  return (String.ofList suffix, rest)

/-- A handle: exclamation marks around a name, or a single one before a space. -/
def readHandle (s : List Char) : Except FormError (String × List Char) :=
  match s with
  | '!' :: ' ' :: rest => .ok ("!", ' ' :: rest)
  | '!' :: rest =>
    let name := rest.takeWhile isNameChar
    match rest.dropWhile isNameChar with
    | '!' :: rest => .ok (String.ofList ('!' :: name ++ ['!']), rest)
    | _ => .error .badName
  | _ => .error .badName

/-- The tag after its exclamation mark, before what follows it is looked at. -/
def readTagName (s : List Char) : Except FormError (TagName × List Char) := do
  match s with
  | '<' :: rest =>
    let (suffix, rest) ← readTagSuffix rest
    match rest with
    | '>' :: rest => return (⟨none, suffix⟩, rest)
    | _ => throw .badName
  | _ =>
    if beginsGap s then return (⟨none, "!"⟩, s)
    else if (s.takeWhile fun c ↦ !(c = ' ' || isBreak c)).contains '!' then
      let (handle, rest) ← readHandle ('!' :: s)
      let (suffix, rest) ← readTagSuffix rest
      return (⟨some handle, suffix⟩, rest)
    else
      let (suffix, rest) ← readTagSuffix s
      return (⟨some "!", suffix⟩, rest)

/-- The tag after its exclamation mark, and the gap that follows it. -/
def readTag (s : List Char) : Except FormError (TagName × List Char) := do
  let (tag, rest) ← readTagName s
  if beginsSpace rest then return (tag, rest)
  throw .badName

/-- The number at the start of a text, and what follows it. -/
def readVersionNumber (s : List Char) : Except FormError (Nat × List Char) :=
  match takeSome? isDecimal s with
  | some (digits, rest) => .ok (decimalValue digits, rest)
  | none => .error .badDirective

/-- The directive after its percent sign, before the end of its line is looked at. -/
def readDirectiveBody (s : List Char) : Except FormError (Directive × List Char) := do
  match takeSome? isNameChar s with
  | none => throw .badName
  | some (name, rest) =>
    if !beginsSpace rest then throw .badName
    let after := rest.dropWhile (· = ' ')
    if String.ofList name = "YAML" then
      let (major, rest) ← readVersionNumber after
      match rest with
      | '.' :: rest =>
        let (minor, rest) ← readVersionNumber rest
        if beginsSpace rest then return (.version major minor, rest)
        throw .badDirective
      | _ => throw .badDirective
    else if String.ofList name = "TAG" then
      let (handle, rest) ← readHandle after
      if rest.head? != some ' ' then throw .badName
      let (expansion, rest) ← readTagSuffix (rest.dropWhile (· = ' '))
      if beginsSpace rest then return (.handle handle expansion, rest)
      throw .badName
    else return (.other, rest.dropWhile (!isBreak ·))

/-- The directive after its percent sign, and the lines below it. -/
def readDirective (s : List Char) : Except FormError (Directive × List Char) := do
  let (directive, rest) ← readDirectiveBody s
  match afterEmptyLine? rest with
  | some rest => return (directive, rest)
  | none => throw .badDirective

end RuleCalendar.Yaml
