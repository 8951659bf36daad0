import RuleCalendar.Text.Layout
import RuleCalendar.Text.Quoted

/-!
# Templates

A template is a text with places for values. A place begins with a percent sign; a name in
parentheses, flags, a width, a precision and a letter follow, and the letter says how the value is
written. Two percent signs stand for one. All values are texts here, so that letters for numbers
have nothing to write.
-/

namespace RuleCalendar

/-- Why a template cannot be filled in. -/
inductive TemplateError where
  /-- The template ends within a place. -/
  | incomplete
  /-- The template ends within a name. -/
  | incompleteName
  /-- There is no value of this name. -/
  | unknownName (name : String)
  /-- A place without a name has no value left to take. -/
  | noValue
  /-- A width or a precision is to be taken from a value that is no integer. -/
  | widthNotInteger
  /-- A width has too many digits. -/
  | widthTooLarge
  /-- A precision has too many digits. -/
  | precisionTooLarge
  /-- A letter for integers. -/
  | notInteger (letter : Char)
  /-- A letter for numbers. -/
  | notNumber (letter : Char)
  /-- A letter for numbers with a fraction. -/
  | notReal
  /-- The letter for a single character, and a text of another length. -/
  | notCharacter
  /-- A letter without a meaning, and where it stands. -/
  | unknownLetter (letter : Char) (index : Nat)
  deriving DecidableEq, Repr

/-- The text of a template error. -/
def TemplateError.message : TemplateError → String
  | incomplete => "incomplete format"
  | incompleteName => "incomplete format key"
  | unknownName name => String.ofList (Text.quoted name.toList)
  | noValue => "not enough arguments for format string"
  | widthNotInteger => "* wants int"
  | widthTooLarge => "width too big"
  | precisionTooLarge => "precision too big"
  | notInteger letter => s!"%{letter} format: an integer is required, not str"
  | notNumber letter => s!"%{letter} format: a real number is required, not str"
  | notReal => "must be real number, not str"
  | notCharacter => "%c requires int or char"
  | unknownLetter letter index =>
    let code := letter.toNat
    let shown := if 31 ≤ code ∧ code ≤ 126 then letter else '?'
    let hex := String.ofList (Nat.toDigits 16 code)
    s!"unsupported format character '{shown}' (0x{hex}) at index {index}"

namespace Template

/-- What is read of a place before its letter. -/
structure Place where
  /-- Whether the value stands to the left of its width. -/
  toLeft : Bool := false
  /-- The least number of characters. -/
  width : Nat := 0
  /-- The most characters. -/
  precision : Option Nat := none

/-- The greatest width. -/
def mostWidth : Nat := 9223372036854775807

/-- The greatest precision. -/
def mostPrecision : Nat := 2147483647

/-- The name at the beginning of a text up to its closing parenthesis, and what follows it. -/
def takeName? (depth : Nat) (name : List Char) : List Char → Option (String × List Char)
  | [] => none
  | c :: rest =>
    if c = ')' then
      match depth with
      | 0 => some (String.ofList name.reverse, rest)
      | depth + 1 => takeName? depth (c :: name) rest
    else takeName? (if c = '(' then depth + 1 else depth) (c :: name) rest

/-- The number at the beginning of a text, if it has no more digits than `most`, and what follows
it. -/
def takeNumber? (most : Nat) (n : Nat) : List Char → Option (Nat × List Char)
  | [] => some (n, [])
  | c :: rest =>
    if '0' ≤ c ∧ c ≤ '9' then
      let digit := c.toNat - 48
      if (most - digit) / 10 < n then none else takeNumber? most (10 * n + digit) rest
    else some (n, c :: rest)

/-- A flag between the name and the width. -/
def isFlag (c : Char) : Bool := c = '-' || c = '+' || c = ' ' || c = '#' || c = '0'

/-- A number where one may stand, and what follows it. A star stands for the number of a value. -/
def number (hasValue : Bool) (most : Nat) (tooLarge : TemplateError) (s : List Char) :
    Except TemplateError (Nat × List Char) :=
  if s.head? = some '*' then .error (if hasValue then .widthNotInteger else .noValue)
  else match takeNumber? most 0 s with
    | some found => .ok found
    | none => .error tooLarge

/-- What stands between the name of a place and its letter, and the text from the letter on. -/
def readPlace (hasValue : Bool) (s : List Char) : Except TemplateError (Place × List Char) := do
  let rest := s.dropWhile isFlag
  let toLeft := (s.takeWhile isFlag).contains '-'
  let (width, rest) ← number hasValue mostWidth .widthTooLarge rest
  let (precision, rest) ← match rest with
    | '.' :: rest => do
      let (n, rest) ← number hasValue mostPrecision .precisionTooLarge rest
      pure (some n, rest)
    | rest => pure (none, rest)
  let rest := match rest with
    | 'h' :: more | 'l' :: more | 'L' :: more => more
    | rest => rest
  return ({ toLeft, width, precision }, rest)

/-- A text in its place. -/
def Place.fit (p : Place) (s : List Char) : List Char :=
  if p.toLeft then Text.padRight p.width s else Text.padLeft p.width s

/-- A text in its place, cut to the precision. -/
def Place.cut (p : Place) (s : List Char) : List Char := p.fit (p.precision.elim s s.take)

/-- A text between quotes with all characters beyond ASCII escaped. -/
def quotedAscii (s : List Char) : List Char :=
  (Text.quoted s).flatMap fun c ↦ if c.toNat < 128 then [c] else Text.codeEscape c

/-- A value in its place as a letter says; `index` is where the letter stands. -/
def write (p : Place) (letter : Char) (index : Nat) (value : List Char) :
    Except TemplateError (List Char) :=
  match letter with
  | 's' => .ok (p.cut value)
  | 'r' => .ok (p.cut (Text.quoted value))
  | 'a' => .ok (p.cut (quotedAscii value))
  | 'c' => if value.length = 1 then .ok (p.fit value) else .error .notCharacter
  | 'd' | 'i' | 'u' => .error (.notNumber letter)
  | 'o' | 'x' | 'X' => .error (.notInteger letter)
  | 'e' | 'E' | 'f' | 'F' | 'g' | 'G' => .error .notReal
  | _ => .error (.unknownLetter letter index)

/-- The rest of a template filled in, when `value` is left to be taken by a place without a name and
`size` is the length of the whole template. -/
def fillFrom (fields : List (String × String)) (size : Nat) :
    Nat → Option (List Char) → List Char → Except TemplateError (List Char)
  | 0, _, rest => .ok rest
  | _ + 1, _, [] => .ok []
  | fuel + 1, value, '%' :: '%' :: rest => do
    return '%' :: (← fillFrom fields size fuel value rest)
  | fuel + 1, value, '%' :: rest => do
    let (value, rest) ← match rest with
      | '(' :: rest =>
        match takeName? 0 [] rest with
        | none => throw .incompleteName
        | some (name, rest) =>
          match fields.lookup name with
          | none => throw (.unknownName name)
          | some value => pure (some value.toList, rest)
      | rest => pure (value, rest)
    let (place, rest) ← readPlace value.isSome rest
    match rest with
    | [] => throw .incomplete
    | letter :: rest =>
      match value with
      | none => throw .noValue
      | some text =>
        return (← write place letter (size - rest.length - 1) text) ++
          (← fillFrom fields size fuel none rest)
  | fuel + 1, value, c :: rest => do return c :: (← fillFrom fields size fuel value rest)

/-- A template with the values of its names filled in. -/
def fill (fields : List (String × String)) (template : List Char) :
    Except TemplateError (List Char) :=
  fillFrom fields template.length (template.length + 1) none template

end Template

end RuleCalendar
